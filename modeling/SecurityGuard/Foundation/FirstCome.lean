import SecurityGuard.Foundation.SortedMap

/-!
# A table with a limit and no removal

Keys arrive one after the other.  A key that the table has is written again; another one enters
while the table has room and is turned away afterwards, for ever.  After any history of arrivals
the table holds the first distinct keys of the history, as many as the limit allows.
-/

namespace FirstCome

variable {κ ν : Type*} [LinearOrder κ] {limit : Nat} {history : List κ} {key : κ}

/-- The first distinct keys of a history. -/
def admitted (limit : Nat) (history : List κ) : List κ := history.eraseDups.take limit

/-- A table that has or could take a key. -/
def Admits (limit : Nat) (table : SortedMap κ ν) (key : κ) : Prop :=
  table.contains key = true ∨ table.size < limit

instance (limit : Nat) (table : SortedMap κ ν) (key : κ) : Decidable (Admits limit table key) :=
  inferInstanceAs (Decidable (_ ∨ _))

theorem mem_of_mem_admitted (mem : key ∈ admitted limit history) : key ∈ history :=
  List.mem_eraseDups.mp (List.mem_of_mem_take mem)

theorem eraseDups_concat (history : List κ) (key : κ) :
    (history ++ [key]).eraseDups =
      if key ∈ history then history.eraseDups else history.eraseDups ++ [key] := by
  rw [List.eraseDups_append]
  split_ifs with seen <;> simp [List.removeAll, seen, List.eraseDups_cons]

theorem admitted_of_mem (seen : key ∈ history) :
    admitted limit (history ++ [key]) = admitted limit history := by
  rw [admitted, eraseDups_concat, if_pos seen, admitted]

theorem admitted_of_full (full : limit ≤ history.eraseDups.length) :
    admitted limit (history ++ [key]) = admitted limit history := by
  rw [admitted, eraseDups_concat, admitted]
  split_ifs
  · rfl
  · rw [List.take_append_of_le_length full]

theorem admitted_of_room (fresh : key ∉ history) (room : history.eraseDups.length < limit) :
    admitted limit (history ++ [key]) = admitted limit history ++ [key] := by
  have whole : (history.eraseDups ++ [key]).length ≤ limit := by
    rw [List.length_append, List.length_singleton]
    exact room
  rw [admitted, eraseDups_concat, if_neg fresh, List.take_of_length_le whole, admitted,
    List.take_of_length_le (Nat.le_of_lt room)]

/-- The table holds exactly the keys that a history admits. -/
structure Holds (limit : Nat) (history : List κ) (table : SortedMap κ ν) : Prop where
  keys : ∀ key, table.contains key = true ↔ key ∈ admitted limit history
  size : table.size = (admitted limit history).length

theorem holds_empty (limit : Nat) : Holds limit [] (.empty : SortedMap κ ν) where
  keys := by simp [admitted]
  size := by simp [admitted]

namespace Holds

variable {table : SortedMap κ ν} (holds : Holds limit history table)

include holds

theorem size_eq : table.size = min limit history.eraseDups.length := by
  rw [holds.size, admitted, List.length_take]

/-- A key that enters is new in the history as well, and the history is short. -/
theorem room_of_enters (absent : table.contains key = false) (room : table.size < limit) :
    key ∉ history ∧ history.eraseDups.length < limit := by
  rw [holds.size_eq] at room
  have short : history.eraseDups.length < limit := by omega
  refine ⟨fun seen => ?_, short⟩
  have mem : key ∈ admitted limit history := by
    rw [admitted, List.take_of_length_le (Nat.le_of_lt short)]
    exact List.mem_eraseDups.mpr seen
  rw [(holds.keys key).mpr mem] at absent
  cases absent

/-- The table takes a key exactly when the history with this key admits it. -/
theorem admits_iff : Admits limit table key ↔ key ∈ admitted limit (history ++ [key]) := by
  cases held : table.contains key with
  | true =>
      have mem := (holds.keys key).mp held
      rw [admitted_of_mem (mem_of_mem_admitted mem)]
      exact iff_of_true (.inl held) mem
  | false =>
      by_cases room : table.size < limit
      · obtain ⟨fresh, short⟩ := holds.room_of_enters held room
        rw [admitted_of_room fresh short]
        exact iff_of_true (.inr room) (List.mem_append_right _ List.mem_cons_self)
      · have full : limit ≤ history.eraseDups.length := by
          rw [holds.size_eq] at room
          omega
        rw [admitted_of_full full, ← holds.keys key, held]
        simp [Admits, held, room]

/-- Writing a key that the table takes. -/
theorem insert (admits : Admits limit table key) (value : ν) :
    Holds limit (history ++ [key]) (table.insert key value) := by
  cases held : table.contains key with
  | true =>
      have mem := (holds.keys key).mp held
      have same : admitted limit (history ++ [key]) = admitted limit history :=
        admitted_of_mem (mem_of_mem_admitted mem)
      refine ⟨fun other => ?_, ?_⟩
      · rw [same, ← holds.keys other, SortedMap.contains_insert, Bool.or_eq_true,
          decide_eq_true_iff, or_iff_right_iff_imp]
        rintro rfl
        exact held
      · rw [same, SortedMap.size_insert_of_bound held, holds.size]
  | false =>
      have room : table.size < limit := admits.resolve_left (by simp [held])
      obtain ⟨fresh, short⟩ := holds.room_of_enters held room
      have grown : admitted limit (history ++ [key]) = admitted limit history ++ [key] :=
        admitted_of_room fresh short
      refine ⟨fun other => ?_, ?_⟩
      · rw [grown, List.mem_append, List.mem_singleton, ← holds.keys other,
          SortedMap.contains_insert, Bool.or_eq_true, decide_eq_true_iff, or_comm]
      · rw [grown, SortedMap.size_insert_of_fresh value held, holds.size, List.length_append,
          List.length_singleton]

theorem turn_away (refused : ¬Admits limit table key) : Holds limit (history ++ [key]) table := by
  have full : limit ≤ history.eraseDups.length := by
    have crowded : ¬table.size < limit := fun room => refused (.inr room)
    rw [holds.size_eq] at crowded
    omega
  have same : admitted limit (history ++ [key]) = admitted limit history := admitted_of_full full
  exact ⟨fun other => by rw [same, holds.keys other], by rw [same, holds.size]⟩

end Holds

end FirstCome
