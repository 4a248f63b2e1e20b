import SecurityGuard.Config.EventConfig

/-!
# The ids of a parsed configuration

`Parse` enters an entry of the document under its old id and under its own.  An id belongs to
the last entry that is entered under it, and an entry whose id cannot be read is entered under 0.
-/

namespace SecurityGuard

namespace Json

/-- The elements of the array under a key. -/
def elements (document : Json) (key : String) : List Json :=
  match document.find key with
  | some (array elements) => elements
  | _ => []

theorem mapM_objects {α : Type} {read : Json → α} {items : List Json} {values : List α}
    (accepted : items.mapM (fun element =>
      match element with
      | object members => some (read (object members))
      | _ => none) = some values) :
    values = items.map read := by
  induction items generalizing values with
  | nil =>
      rw [List.mapM_nil] at accepted
      exact (Option.some.inj accepted).symm
  | cons element rest ih =>
      rw [List.mapM_cons] at accepted
      cases element with
      | object members =>
          obtain ⟨later, mapped, rfl⟩ : ∃ later, _ = some later ∧
              read (object members) :: later = values := by
            simpa [Option.bind_eq_some_iff] using accepted
          rw [ih mapped, List.map_cons]
      | null | boolean | number | text | array => simp at accepted

theorem unmarshalObjects_eq_map {α : Type} {read : Json → α} {document : Json} {key : String}
    {values : List α} (accepted : document.unmarshalObjects read key = some values) :
    values = (document.elements key).map read := by
  rw [unmarshalObjects] at accepted
  split at accepted
  · next items found =>
      have listed : document.elements key = items := by rw [elements, found]
      rw [listed]
      exact mapM_objects accepted
  · contradiction

end Json

namespace EventCfg

/-- An entry is entered under this id. -/
def UsesId (eventId : Int) (cfg : EventCfg) : Prop :=
  cfg.eventId = eventId ∨ cfg.oldEventId ≠ 0 ∧ cfg.oldEventId = eventId

instance (eventId : Int) (cfg : EventCfg) : Decidable (cfg.UsesId eventId) :=
  inferInstanceAs (Decidable (_ ∨ _))

/-- Whether the id of an entry can be read. -/
def isWellFormed (entry : Json) : Bool :=
  (strToI64Hex ((entry.unmarshalText "eventId").getD "")).isSome

/-- The configuration that `ParseEventConfig` makes of an entry. -/
def ofEntry (entry : Json) : EventCfg := (fromJson entry).limitStorage

theorem ofEntry_malformed {entry : Json} (malformed : ¬isWellFormed entry = true) :
    ofEntry entry = { eventId := 0 } := by
  rw [isWellFormed, Option.isSome_iff_ne_none, not_not] at malformed
  rw [ofEntry, fromJson, malformed]
  rfl

theorem usesId_zero {cfg : EventCfg} : cfg.UsesId 0 ↔ cfg.eventId = 0 :=
  ⟨fun uses => uses.resolve_right fun ⟨nonzero, zero⟩ => nonzero zero, .inl⟩

end EventCfg

open EventCfg

theorem parseEventConfig_eq_map {document : Json} {configs : List EventCfg}
    (accepted : parseEventConfig document = some configs) :
    configs = (document.elements "eventcfg").map ofEntry := by
  obtain ⟨values, read, rfl⟩ := Option.map_eq_some_iff.mp accepted
  rw [Json.unmarshalObjects_eq_map read, List.map_map]
  rfl

section Entering

variable {ν : Type}

/-- Enter each configuration under its old id, if it has one, and then under its own. -/
def enterAll (value : EventCfg → ν) (map : SortedMap Int ν) (configs : List EventCfg) :
    SortedMap Int ν :=
  configs.foldl
    (fun map cfg =>
      let cached := if cfg.oldEventId ≠ 0 then map.insert cfg.oldEventId (value cfg) else map
      cached.insert cfg.eventId (value cfg))
    map

/-- The last configuration that is entered under an id. -/
def lastUse (configs : List EventCfg) (eventId : Int) : Option EventCfg :=
  (configs.filter fun cfg => cfg.UsesId eventId).getLast?

theorem lastUse_cons (cfg : EventCfg) (configs : List EventCfg) (eventId : Int) :
    lastUse (cfg :: configs) eventId =
      (lastUse configs eventId).or (if cfg.UsesId eventId then some cfg else none) := by
  by_cases uses : cfg.UsesId eventId
  · simp only [lastUse, List.filter_cons, uses, decide_true, if_true, List.getLast?_cons]
    cases (configs.filter fun cfg => cfg.UsesId eventId).getLast? <;> rfl
  · simp [lastUse, uses]

theorem get?_enterAll (value : EventCfg → ν) (map : SortedMap Int ν) (configs : List EventCfg)
    (eventId : Int) :
    (enterAll value map configs).get? eventId =
      ((lastUse configs eventId).map value).or (map.get? eventId) := by
  induction configs generalizing map with
  | nil => rfl
  | cons cfg configs ih =>
      have entered : ((if cfg.oldEventId ≠ 0 then map.insert cfg.oldEventId (value cfg)
          else map).insert cfg.eventId (value cfg)).get? eventId =
            if cfg.UsesId eventId then some (value cfg) else map.get? eventId := by
        rw [SortedMap.get?_insert]
        by_cases own : eventId = cfg.eventId
        · rw [if_pos own, if_pos (.inl own.symm)]
        · rw [if_neg own]
          by_cases old : cfg.oldEventId ≠ 0 ∧ cfg.oldEventId = eventId
          · rw [if_pos old.1, SortedMap.get?_insert, if_pos old.2.symm, if_pos (.inr old)]
          · have unused : ¬cfg.UsesId eventId := not_or.mpr ⟨Ne.symm own, old⟩
            rw [if_neg unused]
            split_ifs with nonzero
            · rw [SortedMap.get?_insert, if_neg fun same => old ⟨nonzero, same.symm⟩]
            · rfl
      rw [enterAll, List.foldl_cons, ← enterAll, ih, entered, lastUse_cons]
      split_ifs
      · cases lastUse configs eventId <;> rfl
      · rw [Option.or_none]

theorem lastUse_mem {configs : List EventCfg} {eventId : Int} {cfg : EventCfg}
    (last : lastUse configs eventId = some cfg) : cfg ∈ configs ∧ cfg.UsesId eventId := by
  have mem := List.mem_of_getLast? last
  simpa using mem

theorem lastUse_isSome {configs : List EventCfg} {eventId : Int} :
    (lastUse configs eventId).isSome = true ↔ ∃ cfg ∈ configs, cfg.UsesId eventId := by
  rw [lastUse, List.getLast?_isSome, Ne, List.filter_eq_nil_iff]
  simp

end Entering

namespace ConfigData

variable {config : ConfigData} {parseJson : String → Option Json} {stream : Option String}
  {document : Json}

/-- A document that is accepted is entered in both maps. -/
theorem parse_accepted (read : stream.bind parseJson = some document)
    (accepted : (config.parse parseJson stream).1 = true) :
    let configs := (document.elements "eventcfg").map ofEntry
    (config.parse parseJson stream).2.eventMap = enterAll id config.eventMap configs ∧
      (config.parse parseJson stream).2.eventToTableMap =
        enterAll EventCfg.dbTable config.eventToTableMap configs := by
  rw [parse] at accepted ⊢
  cases found : readConfigs parseJson stream with
  | none =>
      rw [found] at accepted
      contradiction
  | some configs =>
      rw [readConfigs, read, Option.bind_some] at found
      rw [parseEventConfig_eq_map found]
      generalize (document.elements "eventcfg").map ofEntry = entered
      obtain ⟨events, untouched⟩ := cacheEventConfig_maps config entered
      obtain ⟨kept, tables⟩ := cacheEventToTable_maps (config.cacheEventConfig entered) entered
      dsimp only
      refine ⟨kept.trans events, ?_⟩
      rw [tables, untouched, enterAll]
      generalize config.eventToTableMap = start
      clear events untouched kept tables
      induction entered generalizing start with
      | nil => rfl
      | cons cfg entered ih =>
          rw [List.flatMap_cons, List.foldl_append, List.foldl_cons, ih]
          split_ifs <;> rfl

/-- The ids that a parse adds are those of the entries whose id can be read, and each of these
entries is found under its own id, with its table. -/
structure IndexedByIds (before after : ConfigData) (entries : List Json) : Prop where
  keys : ∀ eventId, after.eventMap.contains eventId = true ↔
    before.eventMap.contains eventId = true ∨
      ∃ entry ∈ entries, isWellFormed entry = true ∧ (ofEntry entry).UsesId eventId
  configs : ∀ entry ∈ entries, isWellFormed entry = true →
    after.getEventConfig (ofEntry entry).eventId = some (ofEntry entry)
  tables : ∀ entry ∈ entries, isWellFormed entry = true →
    after.getTableFromEventId (ofEntry entry).eventId = (ofEntry entry).dbTable

/-- The ids that can be read are distinct. -/
def DistinctIds (entries : List Json) : Prop :=
  entries.Pairwise fun earlier later =>
    isWellFormed earlier = true → isWellFormed later = true →
      (ofEntry earlier).eventId ≠ (ofEntry later).eventId

/-- An entry with another configuration is entered under the own id of an earlier one. -/
def Overwrites (earlier later : Json) : Prop :=
  (ofEntry later).UsesId (ofEntry earlier).eventId ∧ ofEntry later ≠ ofEntry earlier

/-- The id 0 of entries without an id is in use anyway, and no entry loses its own id. -/
structure Unclashing (before : ConfigData) (entries : List Json) : Prop where
  zero : ∀ entry ∈ entries, ¬isWellFormed entry = true →
    before.eventMap.contains 0 = true ∨
      ∃ own ∈ entries, isWellFormed own = true ∧ (ofEntry own).eventId = 0
  kept : entries.Pairwise fun earlier later =>
    isWellFormed earlier = true → ¬Overwrites earlier later

variable {entry : Json} {entries : List Json}

/-- The last use of the id of an entry, among itself and later ones, is the entry's own exactly
if no later entry overwrites it: only entries without an id could restore its configuration, and
then nothing else is entered under its id. -/
theorem lastUse_own_iff
    (distinct : ∀ later ∈ entries, isWellFormed later = true →
      (ofEntry entry).eventId ≠ (ofEntry later).eventId) :
    lastUse ((entry :: entries).map ofEntry) (ofEntry entry).eventId = some (ofEntry entry) ↔
      ∀ later ∈ entries, ¬Overwrites entry later := by
  have own : (ofEntry entry).UsesId (ofEntry entry).eventId := .inl rfl
  rw [List.map_cons, lastUse_cons, if_pos own]
  constructor
  · intro restored later mem overwrites
    obtain ⟨last, found⟩ := Option.isSome_iff_exists.mp
      (lastUse_isSome.mpr ⟨ofEntry later, List.mem_map_of_mem mem, overwrites.1⟩)
    rw [found, Option.some_or] at restored
    obtain rfl := Option.some.inj restored
    obtain ⟨other, other_mem, same⟩ := List.mem_map.mp (lastUse_mem found).1
    have unformed : ¬isWellFormed other = true := fun formed =>
      distinct other other_mem formed (congrArg EventCfg.eventId same).symm
    have default : ofEntry entry = { eventId := 0 } := same ▸ ofEntry_malformed unformed
    have zero : (ofEntry entry).eventId = 0 := congrArg EventCfg.eventId default
    have later_zero : (ofEntry later).eventId = 0 :=
      usesId_zero.mp (zero ▸ overwrites.1)
    by_cases formed_later : isWellFormed later = true
    · exact distinct later mem formed_later (zero.trans later_zero.symm)
    · exact overwrites.2 ((ofEntry_malformed formed_later).trans default.symm)
  · intro kept
    cases found : lastUse (entries.map ofEntry) (ofEntry entry).eventId with
    | none => rfl
    | some last =>
        obtain ⟨mem, uses⟩ := lastUse_mem found
        obtain ⟨later, later_mem, rfl⟩ := List.mem_map.mp mem
        rw [Option.some_or, Option.some.injEq]
        exact not_not.mp fun differs => kept later later_mem ⟨uses, differs⟩

/-- Every entry is the last use of its id exactly if none is overwritten. -/
theorem lastUse_each_iff (distinct : DistinctIds entries) :
    (∀ entry ∈ entries, isWellFormed entry = true →
        lastUse (entries.map ofEntry) (ofEntry entry).eventId = some (ofEntry entry)) ↔
      entries.Pairwise fun earlier later =>
        isWellFormed earlier = true → ¬Overwrites earlier later := by
  induction entries with
  | nil => simp
  | cons first rest ih =>
      obtain ⟨apart, distinct⟩ := List.pairwise_cons.mp distinct
      have later (entry : Json) (mem : entry ∈ rest) :
          lastUse ((first :: rest).map ofEntry) (ofEntry entry).eventId =
            lastUse (rest.map ofEntry) (ofEntry entry).eventId := by
        obtain ⟨last, found⟩ := Option.isSome_iff_exists.mp (lastUse_isSome.mpr
          ⟨ofEntry entry, List.mem_map_of_mem mem, .inl rfl⟩)
        rw [List.map_cons, lastUse_cons, found, Option.some_or]
      rw [List.pairwise_cons, ← ih distinct, List.forall_mem_cons]
      refine and_congr ?_ (forall₂_congr fun entry mem => by rw [later entry mem])
      constructor
      · intro own entry mem formed
        exact (lastUse_own_iff fun other other_mem =>
          apart other other_mem formed).mp (own formed) entry mem
      · intro kept formed
        exact (lastUse_own_iff fun other other_mem =>
          apart other other_mem formed).mpr fun entry mem => kept entry mem formed

/-- A document whose readable ids are distinct is indexed by them exactly if no entry loses its
id to a later one and no entry without an id brings in the id 0. -/
theorem parse_indexedByIds_iff (read : stream.bind parseJson = some document)
    (accepted : (config.parse parseJson stream).1 = true)
    (distinct : DistinctIds (document.elements "eventcfg")) :
    IndexedByIds config (config.parse parseJson stream).2 (document.elements "eventcfg") ↔
      Unclashing config (document.elements "eventcfg") := by
  obtain ⟨events, tables⟩ := parse_accepted read accepted
  revert distinct events tables
  generalize document.elements "eventcfg" = entries
  generalize (config.parse parseJson stream).2 = after
  intro distinct events tables
  have found (eventId : Int) : after.getEventConfig eventId =
      (lastUse (entries.map ofEntry) eventId).or (config.eventMap.get? eventId) := by
    rw [getEventConfig, events, get?_enterAll, Option.map_id_fun, id]
  have bound (eventId : Int) : after.eventMap.contains eventId = true ↔
      config.eventMap.contains eventId = true ∨
        ∃ entry ∈ entries, (ofEntry entry).UsesId eventId := by
    have get : after.eventMap.get? eventId = _ := found eventId
    rw [SortedMap.contains, get, Option.isSome_or, Bool.or_eq_true, lastUse_isSome, or_comm]
    simp [SortedMap.contains]
  have own {entry : Json} (mem : entry ∈ entries) : ∃ last,
      lastUse (entries.map ofEntry) (ofEntry entry).eventId = some last :=
    Option.isSome_iff_exists.mp
      (lastUse_isSome.mpr ⟨ofEntry entry, List.mem_map_of_mem mem, .inl rfl⟩)
  constructor
  · intro indexed
    refine ⟨fun entry mem malformed => ?_,
      (lastUse_each_iff distinct).mp fun entry mem formed => ?_⟩
    · have uses : (ofEntry entry).UsesId 0 := by
        rw [ofEntry_malformed malformed]
        exact .inl rfl
      refine ((indexed.keys 0).mp ((bound 0).mpr (.inr ⟨entry, mem, uses⟩))).imp_right ?_
      rintro ⟨other, other_mem, formed, other_uses⟩
      exact ⟨other, other_mem, formed, usesId_zero.mp other_uses⟩
    · obtain ⟨last, is_last⟩ := own mem
      have configured := indexed.configs entry mem formed
      rw [found, is_last, Option.some_or] at configured
      rw [is_last, configured]
  · rintro ⟨zero, kept⟩
    have each := (lastUse_each_iff distinct).mpr kept
    refine ⟨fun eventId => ?_, fun entry mem formed => ?_, fun entry mem formed => ?_⟩
    · rw [bound]
      constructor
      · rintro (earlier | ⟨entry, mem, uses⟩)
        · exact .inl earlier
        · by_cases formed : isWellFormed entry = true
          · exact .inr ⟨entry, mem, formed, uses⟩
          · obtain rfl : eventId = 0 := by
              rw [ofEntry_malformed formed] at uses
              exact (uses.resolve_right fun old => old.1 rfl).symm
            refine (zero entry mem formed).imp_right ?_
            rintro ⟨other, other_mem, other_formed, other_zero⟩
            exact ⟨other, other_mem, other_formed, .inl other_zero⟩
      · rintro (earlier | ⟨entry, mem, -, uses⟩)
        · exact .inl earlier
        · exact .inr ⟨entry, mem, uses⟩
    · rw [found, each entry mem formed, Option.some_or]
    · rw [getTableFromEventId, tables, get?_enterAll, each entry mem formed]
      rfl

/-- A document whose only entry has a name for an id. -/
def nameDocument : Json :=
  .object [("eventcfg", .array [.object [("eventId", .text "seven")]])]

theorem distinctIds_nameDocument : DistinctIds (nameDocument.elements "eventcfg") :=
  List.pairwise_singleton _ _

theorem parse_indexedByIds_iff_nameDocument :
    IndexedByIds {} (({} : ConfigData).parse (fun _ => some nameDocument) (some "")).2
        (nameDocument.elements "eventcfg") ↔
      Unclashing {} (nameDocument.elements "eventcfg") :=
  parse_indexedByIds_iff rfl (by decide +kernel) distinctIds_nameDocument

/-- The entry without an id is entered under 0. -/
theorem unreadable_id_becomes_zero :
    ¬((({} : ConfigData).parse (fun _ => some nameDocument) (some "")).1 = true →
      DistinctIds (nameDocument.elements "eventcfg") →
        IndexedByIds {} (({} : ConfigData).parse (fun _ => some nameDocument) (some "")).2
          (nameDocument.elements "eventcfg")) := by
  intro indexes
  have indexed := indexes (by decide +kernel) distinctIds_nameDocument
  rcases (indexed.keys 0).mp (by decide +kernel) with earlier | ⟨entry, mem, formed, -⟩
  · exact absurd earlier (by decide)
  · obtain rfl := List.mem_singleton.mp mem
    exact absurd formed (by decide +kernel)

end ConfigData

end SecurityGuard
