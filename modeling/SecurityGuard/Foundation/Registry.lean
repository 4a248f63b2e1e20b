import SecurityGuard.Foundation.SortedMap

/-!
# Registries with quotas

A registry is a heap of objects, which stay at their addresses, and the set of the addresses
that are registered.  Every object has an owner and a handle.  A registry within its quotas
holds at most so many objects, at most so many of one owner and no two with one handle.
-/

namespace Registry

variable {κ ν ω χ : Type*} [LinearOrder κ] [DecidableEq ω]

/-- The registered objects of an owner. -/
def ownedBy (owner : ν → ω) (objects : SortedMap κ ν) (registered : SortedSet κ) (who : ω) :
    List κ :=
  registered.keys.filter fun key => (objects.get? key).any fun object => owner object = who

/-- A registry with at most `limit` objects, at most `ownLimit` of one owner and one object for
each handle. -/
structure Within (owner : ν → ω) (handle : ν → χ) (limit ownLimit : Nat)
    (objects : SortedMap κ ν) (registered : SortedSet κ) : Prop where
  known : ∀ key, registered.contains key = true → ∃ object, objects.get? key = some object
  total : registered.size ≤ limit
  own : ∀ who, (ownedBy owner objects registered who).length ≤ ownLimit
  distinct : ∀ key other object object', registered.contains key = true →
    registered.contains other = true → objects.get? key = some object →
    objects.get? other = some object' → handle object = handle object' → key = other

variable {owner : ν → ω} {handle : ν → χ} {limit ownLimit : Nat} {objects : SortedMap κ ν}
  {registered : SortedSet κ}

theorem Within.empty (objects : SortedMap κ ν) :
    Within owner handle limit ownLimit objects (.empty : SortedSet κ) where
  known := fun _ found => Bool.noConfusion found
  total := Nat.zero_le limit
  own := fun _ => Nat.zero_le ownLimit
  distinct := fun _ _ _ _ found => Bool.noConfusion found

theorem keys_insert_perm {key : κ} (fresh : registered.contains key = false) :
    (registered.insert key ()).keys.Perm (key :: registered.keys) := by
  have absent : registered.get? key = none := by simpa [SortedMap.contains] using fresh
  have perm := (SortedMap.perm_erase (registered.get?_insert_self key ())).map Prod.fst
  rwa [SortedMap.erase_insert, SortedMap.erase_of_absent absent, List.map_cons] at perm

/-- A new object that finds room for itself and for its owner keeps the quotas. -/
theorem Within.insert (within : Within owner handle limit ownLimit objects registered) {key : κ}
    {object : ν} (fresh : objects.get? key = none) (room : registered.size < limit)
    (ownRoom : (ownedBy owner objects registered (owner object)).length < ownLimit)
    (unused : ∀ other object', registered.contains other = true →
      objects.get? other = some object' → handle object' ≠ handle object) :
    Within owner handle limit ownLimit (objects.insert key object)
      (registered.insert key ()) := by
  have outside : registered.contains key = false := by
    rw [Bool.eq_false_iff]
    intro entered
    obtain ⟨object, found⟩ := within.known key entered
    exact absurd (fresh.symm.trans found) (by simp)
  constructor
  · intro other entered
    rw [SortedMap.get?_insert]
    split_ifs with same
    · exact ⟨object, rfl⟩
    · rw [SortedMap.contains_insert, decide_eq_false same, Bool.false_or] at entered
      exact within.known other entered
  · rw [SortedMap.size_insert_of_fresh () outside]
    omega
  · intro who
    have perm := (keys_insert_perm outside).filter fun other =>
      ((objects.insert key object).get? other).any fun object => owner object = who
    have old : ∀ other ∈ registered.keys,
        (((objects.insert key object).get? other).any fun object => owner object = who) =
          (objects.get? other).any fun object => owner object = who := by
      intro other mem
      have different : other ≠ key := by
        rintro rfl
        exact Bool.false_ne_true (outside.symm.trans (SortedMap.mem_keys_iff.mp mem))
      rw [SortedMap.get?_insert, if_neg different]
    rw [ownedBy, perm.length_eq, List.filter_cons, List.filter_congr old,
      SortedMap.get?_insert_self]
    have bound := within.own who
    rw [ownedBy] at bound ownRoom
    by_cases mine : owner object = who
    · subst mine
      simp only [Option.any_some, decide_true, if_true, List.length_cons]
      omega
    · simpa [mine] using bound
  · intro first second object₁ object₂ entered entered' found found' same
    rw [SortedMap.contains_insert, Bool.or_eq_true, decide_eq_true_eq] at entered entered'
    rw [SortedMap.get?_insert] at found found'
    split_ifs at found found' with isFirst isSecond isSecond
    · exact isFirst.trans isSecond.symm
    · obtain rfl := Option.some.inj found
      exact absurd same.symm (unused second object₂ (entered'.resolve_left isSecond) found')
    · obtain rfl := Option.some.inj found'
      exact absurd same (unused first object₁ (entered.resolve_left isFirst) found)
    · exact within.distinct first second object₁ object₂ (entered.resolve_left isFirst)
        (entered'.resolve_left isSecond) found found' same

/-- Taking an object off keeps the quotas. -/
theorem Within.erase (within : Within owner handle limit ownLimit objects registered)
    (key : κ) : Within owner handle limit ownLimit objects (registered.erase key) := by
  have still (other : κ) (entered : (registered.erase key).contains other = true) :
      registered.contains other = true := by
    rw [SortedMap.contains_erase, Bool.and_eq_true] at entered
    exact entered.2
  have keys : (registered.erase key).keys.Sublist registered.keys :=
    List.filter_sublist.map Prod.fst
  constructor
  · exact fun other entered => within.known other (still other entered)
  · have shorter := keys.length_le
    rw [SortedMap.keys_length, SortedMap.keys_length] at shorter
    exact Nat.le_trans shorter within.total
  · exact fun who => Nat.le_trans (keys.filter _).length_le (within.own who)
  · exact fun first second _ _ entered entered' =>
      within.distinct first second _ _ (still first entered) (still second entered')

/-- Changing an object that keeps its owner and its handle keeps the quotas. -/
theorem Within.modify (within : Within owner handle limit ownLimit objects registered)
    (key : κ) (change : ν → ν) (owned : ∀ object, owner (change object) = owner object)
    (handled : ∀ object, handle (change object) = handle object) :
    Within owner handle limit ownLimit (objects.modify key change) registered := by
  have earlier {other : κ} {object : ν} (found : (objects.modify key change).get? other =
      some object) : ∃ before, objects.get? other = some before ∧
        owner object = owner before ∧ handle object = handle before := by
    rcases SortedMap.get?_modify_eq_some.mp found with ⟨-, before, old, rfl⟩ | ⟨-, found⟩
    · exact ⟨before, old, owned before, handled before⟩
    · exact ⟨object, found, rfl, rfl⟩
  constructor
  · intro other entered
    obtain ⟨object, found⟩ := within.known other entered
    rw [SortedMap.get?_modify]
    split_ifs with same
    · exact ⟨change object, by rw [← same, found, Option.map_some]⟩
    · exact ⟨object, found⟩
  · exact within.total
  · intro who
    have same : ownedBy owner (objects.modify key change) registered who =
        ownedBy owner objects registered who := by
      refine List.filter_congr fun other _ => ?_
      rw [SortedMap.get?_modify]
      split_ifs with equal
      · rw [← equal, Option.any_map]
        simp only [owned]
      · rfl
    rw [same]
    exact within.own who
  · intro first second _ _ entered entered' found found' same
    obtain ⟨before, old, -, kept⟩ := earlier found
    obtain ⟨before', old', -, kept'⟩ := earlier found'
    exact within.distinct first second before before' entered entered' old old'
      (kept.symm.trans (same.trans kept'))

end Registry
