import SecurityGuard.Foundation.Sql
import SecurityGuard.Foundation.Text

/-!
# The text of a statement

A statement is written in names, marks and blanks.  The lexer cuts a text into names and marks;
the grammar below reads the statements of `Foundation.Sql` from them, with keywords recognised by
their position.  What is printed in this grammar is read back.
-/

namespace Sql

/-- A word or a mark of a statement. -/
inductive Token where
  | name (text : String)
  | mark (character : Char)
  deriving DecidableEq

/-- The characters of names, keywords and numerals. -/
def isNameChar (character : Char) : Bool := character.isAlphanum || character = '_'

/-- A text that the lexer keeps in one piece. -/
def IsName (text : String) : Prop := text ≠ "" ∧ text.toList.all isNameChar = true

instance : DecidablePred IsName := fun _ => inferInstanceAs (Decidable (_ ∧ _))

/-- The name that ends here, whose characters were collected in reverse. -/
def flush (pending : List Char) : List Token :=
  if pending = [] then [] else [.name (String.ofList pending.reverse)]

/-- Cut a text into tokens; blanks only separate. -/
def lex : List Char → List Char → List Token
  | pending, [] => flush pending
  | pending, character :: rest =>
      if isNameChar character then lex (character :: pending) rest
      else flush pending ++ (if character = ' ' then [] else [.mark character]) ++ lex [] rest

/-- A name that ends before the rest of a text ends there. -/
def Separated (rest : List Char) : Prop := ∀ character ∈ rest.head?, isNameChar character = false

/-- The text is cut into the tokens before any rest that separates its last name. -/
def Lexes (text : String) (tokens : List Token) : Prop :=
  ∀ rest, Separated rest → lex [] (text.toList ++ rest) = tokens ++ lex [] rest

/-- The text is cut into the tokens before any rest. -/
def LexesFreely (text : String) (tokens : List Token) : Prop :=
  ∀ rest, lex [] (text.toList ++ rest) = tokens ++ lex [] rest

section Lexing

variable {text text' : String} {tokens tokens' : List Token}

theorem separated_cons {mark : Char} (other : isNameChar mark = false) (rest : List Char) :
    Separated (mark :: rest) := by
  intro character mem
  obtain rfl : mark = character := Option.some.inj mem
  exact other

/-- The text ends a name before it, whatever follows. -/
def Opens (text : String) : Prop := ∀ rest, Separated rest → Separated (text.toList ++ rest)

theorem opens_empty : Opens "" := fun _ separated => separated

theorem separated_nil : Separated [] := fun _ mem => absurd mem (by simp)

theorem LexesFreely.lexes (free : LexesFreely text tokens) : Lexes text tokens :=
  fun rest _ => free rest

theorem lex_pending (name pending rest : List Char) (named : ∀ c ∈ name, isNameChar c) :
    lex pending (name ++ rest) = lex (name.reverse ++ pending) rest := by
  induction name generalizing pending with
  | nil => rfl
  | cons character name ih =>
      rw [List.cons_append, lex, if_pos (named character List.mem_cons_self),
        ih _ fun c mem => named c (List.mem_cons_of_mem character mem), List.reverse_cons,
        List.append_assoc, List.singleton_append]

theorem lex_separated {pending rest : List Char} (separated : Separated rest) :
    lex pending rest = flush pending ++ lex [] rest := by
  cases rest with
  | nil => exact (List.append_nil _).symm
  | cons character rest =>
      have mark : ¬isNameChar character = true := by
        simp [separated character (by simp)]
      rw [lex, lex, if_neg mark, if_neg mark, flush, flush, if_pos rfl]
      simp

theorem IsName.isNameChar (named : IsName text) {character : Char}
    (mem : character ∈ text.toList) : isNameChar character = true :=
  List.all_eq_true.mp named.2 character mem

theorem lexes_name (named : IsName text) : Lexes text [.name text] := by
  intro rest separated
  have filled : text.toList.reverse ≠ [] := by simpa using named.1
  rw [lex_pending _ _ _ fun _ mem => named.isNameChar mem, List.append_nil,
    lex_separated separated, flush, if_neg filled, List.reverse_reverse, String.ofList_toList]

theorem lexes_empty : LexesFreely "" [] := fun _ => rfl

theorem Lexes.append (first : Lexes text tokens) (second : Lexes text' tokens')
    (opens : Opens text') : Lexes (text ++ text') (tokens ++ tokens') := by
  intro rest separated
  rw [String.toList_append, List.append_assoc, first _ (opens rest separated),
    second rest separated, List.append_assoc]

theorem LexesFreely.append (first : LexesFreely text tokens) (second : Lexes text' tokens') :
    Lexes (text ++ text') (tokens ++ tokens') := by
  intro rest separated
  rw [String.toList_append, List.append_assoc, first _, second rest separated, List.append_assoc]

theorem Lexes.append_free (first : Lexes text tokens) (second : LexesFreely text' tokens')
    (separated : ∀ rest, Separated (text'.toList ++ rest)) :
    LexesFreely (text ++ text') (tokens ++ tokens') := by
  intro rest
  rw [String.toList_append, List.append_assoc, first _ (separated rest), second rest,
    List.append_assoc]

theorem Lexes.whole (lexes : Lexes text tokens) : lex [] text.toList = tokens := by
  have cut := lexes [] separated_nil
  rw [List.append_nil] at cut
  rw [cut]
  exact List.append_nil tokens

/-- Items with a separator between them. -/
def between (separator : List Token) : List (List Token) → List Token
  | [] => []
  | [item] => item
  | item :: items => item ++ separator ++ between separator items

/-- Joined items are cut into their tokens, if a mark or a blank ends the separator and another
one begins it. -/
theorem lexes_join {separator : String} {marks : List Token}
    (free : LexesFreely separator marks)
    (begins : ∀ rest, Separated (separator.toList ++ rest))
    {Item : Type*} {print : Item → String} {read : Item → List Token} {items : List Item}
    (lexes : ∀ item ∈ items, Lexes (print item) (read item)) :
    Lexes (separator.intercalate (items.map print)) (between marks (items.map read)) := by
  induction items with
  | nil => exact lexes_empty.lexes
  | cons item items ih =>
      have first := lexes item List.mem_cons_self
      have rest := ih fun other mem => lexes other (List.mem_cons_of_mem item mem)
      cases items with
      | nil =>
          rw [List.map_singleton, List.map_singleton, String.intercalate_singleton]
          exact first
      | cons next items =>
          rw [List.map_cons, List.map_cons, String.intercalate_cons_of_ne_nil (by simp)]
          exact (first.append_free free begins).append rest

end Lexing

/-- A statement and the table that it is for.  A SELECT without columns asks for all of them. -/
inductive Statement where
  | insert (table : String) (targets : List (String × String))
  | select (table : String) (columns : List String) (selection : Selection)
  | count (table : String) (conditions : List Condition)
  | delete (table : String) (conditions : List Condition)

/-- The table of a statement. -/
def Statement.table : Statement → String
  | insert table _ | select table _ _ | count table _ | delete table _ => table

/-- What begins to read an item at the front of the tokens, and what it leaves. -/
abbrev Reader (Item : Type) := List Token → Option (Item × List Token)

/-- Whatever follows, the item is read from its tokens. -/
def Reads {Item : Type} (read : Reader Item) (print : Item → List Token) (item : Item) : Prop :=
  ∀ rest, read (print item ++ rest) = some (item, rest)

/-- The rest after the given tokens. -/
def expect : List Token → List Token → Option (List Token)
  | [], rest => some rest
  | _ :: _, [] => none
  | token :: tokens, first :: rest => if first = token then expect tokens rest else none

/-- Read a word. -/
def word : Reader String
  | .name text :: rest => some (text, rest)
  | _ => none

def nameTokens (name : String) : List Token := [.name name]

def parameterTokens (parameter : String) : List Token := [.mark ':', .name parameter]

/-- Read a parameter. -/
def parameter : Reader String := fun tokens => (expect [.mark ':'] tokens).bind word

/-- The item that goes by the tokens at the front. -/
def keyword {Item : Type} (print : Item → List Token) (items : List Item) : Reader Item :=
  fun tokens =>
    items.findSome? fun item => (expect (print item) tokens).map fun rest => (item, rest)

/-- One or more items with a separator between them; the fuel bounds their number. -/
def several {Item : Type} (separator : Token) (read : Reader Item) : Nat → Reader (List Item)
  | 0, _ => none
  | fuel + 1, tokens =>
      (read tokens).bind fun (item, rest) =>
        match expect [separator] rest with
        | some more =>
            (several separator read fuel more).map fun (items, rest) => (item :: items, rest)
        | none => some ([item], rest)

/-- Items in parentheses, whose opening one is behind. -/
def listed {Item : Type} (read : Reader Item) : Reader (List Item) := fun tokens =>
  match expect [.mark ')'] tokens with
  | some rest => some ([], rest)
  | none =>
      (several (.mark ',') read tokens.length tokens).bind fun (items, rest) =>
        (expect [.mark ')'] rest).map fun rest => (items, rest)

/-- The tokens of a comparison. -/
def Operator.tokens : Operator → List Token
  | eq => [.mark '=']
  | ge => [.mark '>', .mark '=']
  | lt => [.mark '<']
  | like => [.name "LIKE"]

/-- The tokens of a condition. -/
def Condition.tokens : Condition → List Token
  | compare column operator parameter =>
      .name column :: (operator.tokens ++ parameterTokens parameter)
  | isIn column parameters =>
      [.name column, .name "IN", .mark '('] ++
        between [.mark ','] (parameters.map parameterTokens) ++ [.mark ')']

/-- Read a condition. -/
def Condition.read : Reader Condition := fun tokens =>
  (word tokens).bind fun (column, rest) =>
    match expect [.name "IN", .mark '('] rest with
    | some items => (listed parameter items).map fun (names, rest) => (.isIn column names, rest)
    | none =>
        (keyword Operator.tokens [.eq, .ge, .lt, .like] rest).bind fun (operator, rest) =>
          (parameter rest).map fun (name, rest) => (.compare column operator name, rest)

/-- A clause that begins with keywords and may be missing. -/
def clause {Item : Type} (keywords : List Token) (missing : Item) (read : Reader Item) :
    Reader Item := fun tokens =>
  match expect keywords tokens with
  | some rest => read rest
  | none => some (missing, tokens)

/-- The tokens of all conditions. -/
def whereTokens (conditions : List Condition) : List Token :=
  if conditions = [] then []
  else .name "WHERE" :: between [.name "AND"] (conditions.map Condition.tokens)

/-- Read all conditions. -/
def readWhere : Reader (List Condition) :=
  clause [.name "WHERE"] [] fun tokens =>
    several (.name "AND") Condition.read tokens.length tokens

def directionTokens (descending : Bool) : List Token :=
  [.name (if descending then "DESC" else "ASC")]

/-- The tokens of an order. -/
def orderTokens : Option Order → List Token
  | none => []
  | some order =>
      [.name "ORDER", .name "BY", .name order.column] ++ directionTokens order.descending

/-- Without a direction, an order ascends. -/
def readOrder : Reader (Option Order) :=
  clause [.name "ORDER", .name "BY"] none fun tokens =>
    (word tokens).map fun (column, rest) =>
      let (descending, rest) :=
        (keyword directionTokens [true, false] rest).getD (false, rest)
      (some { column, descending }, rest)

/-- The tokens of a limit. -/
def limitTokens : Option Nat → List Token
  | none => []
  | some limit => [.name "LIMIT", .name limit.repr]

/-- Read a limit. -/
def readLimit : Reader (Option Nat) :=
  clause [.name "LIMIT"] none fun tokens =>
    (word tokens).bind fun (digits, rest) =>
      (Text.readDigits digits.toList).map fun limit => (some limit, rest)

/-- The tokens of the columns. -/
def columnTokens (columns : List String) : List Token :=
  if columns = [] then [.mark '*'] else between [.mark ','] (columns.map nameTokens)

/-- Read the columns. -/
def readColumns : Reader (List String) := fun tokens =>
  match expect [.mark '*'] tokens with
  | some rest => some ([], rest)
  | none => several (.mark ',') word tokens.length tokens

/-- The tokens of a statement, as it is written. -/
def Statement.tokens : Statement → List Token
  | insert table targets =>
      [.name "INSERT", .name "INTO", .name table, .mark '('] ++
        (between [.mark ','] ((targets.map Prod.fst).map nameTokens) ++
          ([.mark ')', .name "VALUES", .mark '('] ++
            (between [.mark ','] ((targets.map Prod.snd).map parameterTokens) ++ [.mark ')'])))
  | select table columns selection =>
      .name "SELECT" :: (columnTokens columns ++ ([.name "FROM", .name table] ++
        (whereTokens selection.conditions ++
          (orderTokens selection.order ++ limitTokens selection.limit))))
  | count table conditions =>
      [.name "SELECT", .name "COUNT", .mark '(', .mark '*', .mark ')', .name "FROM",
        .name table] ++ whereTokens conditions
  | delete table conditions =>
      [.name "DELETE", .name "FROM", .name table] ++ whereTokens conditions

/-- As many parameters as there are columns. -/
def readInsert : Reader Statement := fun tokens =>
  (expect [.name "INSERT", .name "INTO"] tokens).bind fun rest =>
    (word rest).bind fun (table, rest) =>
      (expect [.mark '('] rest).bind fun rest =>
        (listed word rest).bind fun (names, rest) =>
          (expect [.name "VALUES", .mark '('] rest).bind fun rest =>
            (listed parameter rest).bind fun (parameters, rest) =>
              if names.length = parameters.length then
                some (.insert table (names.zip parameters), rest)
              else none

def readDelete : Reader Statement := fun tokens =>
  (expect [.name "DELETE", .name "FROM"] tokens).bind fun rest =>
    (word rest).bind fun (table, rest) =>
      (readWhere rest).map fun (conditions, rest) => (.delete table conditions, rest)

def readCount : Reader Statement := fun tokens =>
  (expect [.name "SELECT", .name "COUNT", .mark '(', .mark '*', .mark ')', .name "FROM"]
    tokens).bind fun rest =>
      (word rest).bind fun (table, rest) =>
        (readWhere rest).map fun (conditions, rest) => (.count table conditions, rest)

def readSelect : Reader Statement := fun tokens =>
  (expect [.name "SELECT"] tokens).bind fun rest =>
    (readColumns rest).bind fun (columns, rest) =>
      (expect [.name "FROM"] rest).bind fun rest =>
        (word rest).bind fun (table, rest) =>
          (readWhere rest).bind fun (conditions, rest) =>
            (readOrder rest).bind fun (order, rest) =>
              (readLimit rest).map fun (limit, rest) =>
                (.select table columns { conditions, order, limit }, rest)

/-- Read a statement. -/
def Statement.read : Reader Statement := fun tokens =>
  (readInsert tokens).or ((readDelete tokens).or ((readCount tokens).or (readSelect tokens)))

/-- The statement that a text is, if it is one. -/
def parse (text : String) : Option Statement :=
  (Statement.read (lex [] text.toList)).bind fun (statement, rest) =>
    if rest = [] then some statement else none

/-! ## What is printed is read back -/

section Reading

variable {Item : Type} {read : Reader Item} {print : Item → List Token} {item : Item}
  {items : List Item} {token : Token} {tokens rest : List Token}

@[simp]
theorem expect_append (tokens rest : List Token) : expect tokens (tokens ++ rest) = some rest := by
  induction tokens with
  | nil => rfl
  | cons token tokens ih => rw [List.cons_append, expect, if_pos rfl, ih]

theorem expect_eq_none_of_head (other : rest.head? ≠ some token) :
    expect (token :: tokens) rest = none := by
  cases rest with
  | nil => rfl
  | cons first rest => exact if_neg fun same => other (congrArg some same)

theorem head_of_reads (reads : Reads read print item)
    (never : ∀ rest, read (token :: rest) = none) (rest : List Token) :
    (print item ++ rest).head? ≠ some token := by
  intro head
  obtain ⟨other, same⟩ := List.head?_eq_some_iff.mp head
  have answer := reads rest
  rw [same, never other] at answer
  exact absurd answer (by simp)

theorem reads_word (text : String) : Reads word nameTokens text := fun _ => rfl

theorem reads_parameter (name : String) : Reads parameter parameterTokens name := fun _ => rfl

variable (token) in
theorem length_between (filled : ∀ item ∈ items, print item ≠ []) :
    items.length ≤ (between [token] (items.map print)).length := by
  induction items with
  | nil => exact Nat.le_refl 0
  | cons item items ih =>
      have first := List.length_pos_iff.mpr (filled item List.mem_cons_self)
      have others := ih fun other mem => filled other (List.mem_cons_of_mem item mem)
      cases items with
      | nil => exact first
      | cons next items =>
          rw [List.map_cons, List.map_cons, between, ← List.map_cons, List.length_append,
            List.length_append]
          · simp only [List.length_cons, List.length_nil] at others ⊢
            omega
          · exact fun nothing => absurd nothing (by simp)

theorem several_between (nonempty : items ≠ []) (reads : ∀ item ∈ items, Reads read print item)
    {fuel : ℕ} (enough : items.length ≤ fuel) (ends : expect [token] rest = none) :
    several token read fuel (between [token] (items.map print) ++ rest) = some (items, rest) := by
  induction items generalizing fuel with
  | nil => exact absurd rfl nonempty
  | cons item items ih =>
      obtain ⟨fuel, rfl⟩ := Nat.exists_eq_add_of_lt (Nat.lt_of_lt_of_le (Nat.succ_pos _) enough)
      have first := reads item List.mem_cons_self
      rw [Nat.zero_add, several]
      cases items with
      | nil =>
          rw [List.map_singleton, between, first rest]
          simp [ends]
      | cons next items =>
          have less : (next :: items).length ≤ fuel := by
            simp only [List.length_cons] at enough ⊢
            omega
          have others := ih (List.cons_ne_nil _ _)
            (fun other mem => reads other (List.mem_cons_of_mem item mem)) less
          rw [List.map_cons] at others
          simp only [List.map_cons, between, List.append_assoc, first _, Option.bind_some,
            expect_append, others, Option.map_some]

theorem listed_between (reads : ∀ item ∈ items, Reads read print item)
    (never : ∀ rest, read (.mark ')' :: rest) = none) (rest : List Token) :
    listed read (between [.mark ','] (items.map print) ++ .mark ')' :: rest) =
      some (items, rest) := by
  cases items with
  | nil => simp [listed, between, expect]
  | cons item items =>
      have filled (other : Item) (mem : other ∈ item :: items) : print other ≠ [] := by
        intro nothing
        have answer := reads other mem [.mark ')']
        rw [nothing, List.nil_append, never] at answer
        exact absurd answer (by simp)
      obtain ⟨more, begins⟩ : ∃ more, between [.mark ','] ((item :: items).map print) ++
          .mark ')' :: rest = print item ++ more := by
        cases items with
        | nil => exact ⟨_, rfl⟩
        | cons next items =>
            refine ⟨[.mark ','] ++ (between [.mark ','] ((next :: items).map print) ++
              .mark ')' :: rest), ?_⟩
            simp only [List.map_cons, between, List.append_assoc]
      have opened : expect [.mark ')'] (between [.mark ','] ((item :: items).map print) ++
          .mark ')' :: rest) = none := by
        refine expect_eq_none_of_head ?_
        rw [begins]
        exact head_of_reads (reads item List.mem_cons_self) never more
      have enough : (item :: items).length ≤ (between [.mark ','] ((item :: items).map print) ++
          .mark ')' :: rest).length :=
        (length_between (.mark ',') filled).trans (by simp)
      rw [listed, opened]
      dsimp only
      rw [several_between (List.cons_ne_nil _ _) reads enough rfl]
      rfl

theorem Condition.tokens_ne_nil (condition : Condition) : condition.tokens ≠ [] := by
  cases condition <;> exact List.cons_ne_nil _ _

theorem reads_operator (operator : Operator) :
    Reads (keyword Operator.tokens [.eq, .ge, .lt, .like]) Operator.tokens operator := by
  intro rest
  cases operator <;> simp [keyword, Operator.tokens, expect]

theorem reads_condition (condition : Condition) :
    Reads Condition.read Condition.tokens condition := by
  intro rest
  cases condition with
  | compare column operator parameter =>
      have open' : expect [.name "IN", .mark '(']
          (operator.tokens ++ (parameterTokens parameter ++ rest)) = none := by
        cases operator <;> simp [Operator.tokens, expect]
      rw [Condition.tokens, Condition.read, List.cons_append, List.append_assoc]
      simp only [word, Option.bind_some, open', reads_operator operator _,
        reads_parameter parameter rest, Option.map_some]
  | isIn column parameters =>
      rw [Condition.tokens, Condition.read]
      simp only [List.append_assoc, List.cons_append, List.nil_append, word, Option.bind_some,
        expect, if_true,
        listed_between (fun name _ => reads_parameter name) (fun _ => rfl) rest, Option.map_some]

theorem clause_append {missing : Item} :
    clause tokens missing read (tokens ++ rest) = read rest := by
  simp [clause]

theorem clause_of_missing {missing : Item} (other : rest.head? ≠ some token) :
    clause (token :: tokens) missing read rest = some (missing, rest) := by
  simp [clause, expect_eq_none_of_head other]

theorem readWhere_append (conditions : List Condition) (others : rest.head? ≠ some (.name "WHERE"))
    (ends : rest.head? ≠ some (.name "AND")) :
    readWhere (whereTokens conditions ++ rest) = some (conditions, rest) := by
  rw [whereTokens, readWhere]
  split_ifs with none
  · rw [none]
    exact clause_of_missing others
  · have filled : ∀ condition ∈ conditions, Condition.tokens condition ≠ [] := by
      intro condition _
      cases condition <;> simp [Condition.tokens]
    exact clause_append.trans (several_between none (fun condition _ => reads_condition condition)
      ((length_between (.name "AND") filled).trans (by simp)) (expect_eq_none_of_head ends))

theorem readOrder_append (order : Option Order) (others : rest.head? ≠ some (.name "ORDER")) :
    readOrder (orderTokens order ++ rest) = some (order, rest) := by
  cases order with
  | none => exact clause_of_missing others
  | some order =>
      obtain ⟨column, descending⟩ := order
      cases descending <;>
        simp [readOrder, orderTokens, clause, expect, word, keyword, directionTokens]

theorem readLimit_append (limit : Option Nat) (others : rest.head? ≠ some (.name "LIMIT")) :
    readLimit (limitTokens limit ++ rest) = some (limit, rest) := by
  cases limit with
  | none => exact clause_of_missing others
  | some limit =>
      have asked : limitTokens (some limit) ++ rest =
          [.name "LIMIT"] ++ .name limit.repr :: rest := rfl
      rw [readLimit, asked, clause_append]
      simp only [word, Option.bind_some, Text.readDigits_repr, Option.map_some]

theorem readColumns_append (columns : List String) (ends : rest.head? ≠ some (.mark ',')) :
    readColumns (columnTokens columns ++ rest) = some (columns, rest) := by
  rw [columnTokens, readColumns]
  split_ifs with all
  · simp [all, expect]
  · obtain ⟨first, columns, rfl⟩ := List.exists_cons_of_ne_nil all
    have opened : expect [.mark '*'] (between [.mark ','] ((first :: columns).map nameTokens) ++
        rest) = none := by
      cases columns <;> simp [between, expect, nameTokens]
    have filled : ∀ name ∈ first :: columns, nameTokens name ≠ [] := fun _ _ => List.cons_ne_nil _ _
    have enough := length_between (.mark ',') filled
    rw [opened]
    dsimp only
    exact several_between (List.cons_ne_nil _ _) (fun name _ => reads_word name)
      (enough.trans (by simp)) (expect_eq_none_of_head ends)

end Reading

theorem readInsert_tokens (table : String) (targets : List (String × String)) :
    readInsert (Statement.insert table targets).tokens = some (.insert table targets, []) := by
  have names (rest : List Token) := listed_between
    (fun name (_ : name ∈ targets.map Prod.fst) => reads_word name) (fun _ => rfl) rest
  have parameters := listed_between
    (fun name (_ : name ∈ targets.map Prod.snd) => reads_parameter name) (fun _ => rfl) []
  have paired : (targets.map Prod.fst).zip (targets.map Prod.snd) = targets := by
    rw [List.zip_map', List.map_id'']
    exact fun _ => rfl
  simp only [Statement.tokens, readInsert, List.cons_append, List.nil_append, expect, if_true,
    Option.bind_some, word, names, parameters, List.length_map, paired]

theorem readWhere_whole (conditions : List Condition) :
    readWhere (whereTokens conditions) = some (conditions, []) := by
  have none (token : Token) : ([] : List Token).head? ≠ some token := by simp
  have read := readWhere_append conditions (none _) (none _)
  rwa [List.append_nil] at read

theorem readDelete_tokens (table : String) (conditions : List Condition) :
    readDelete (Statement.delete table conditions).tokens =
      some (.delete table conditions, []) := by
  simp only [Statement.tokens, readDelete, List.cons_append, List.nil_append, expect, if_true,
    Option.bind_some, word, readWhere_whole, Option.map_some]

theorem readCount_tokens (table : String) (conditions : List Condition) :
    readCount (Statement.count table conditions).tokens = some (.count table conditions, []) := by
  simp only [Statement.tokens, readCount, List.cons_append, List.nil_append, expect, if_true,
    Option.bind_some, word, readWhere_whole, Option.map_some]

theorem head_limitTokens (limit : Option Nat) {token : Token} (other : token ≠ .name "LIMIT") :
    (limitTokens limit).head? ≠ some token := by
  cases limit with
  | none => simp [limitTokens]
  | some limit => simpa [limitTokens] using other.symm

theorem head_orderTokens (order : Option Order) (limit : Option Nat) {token : Token}
    (other : token ≠ .name "ORDER") (other' : token ≠ .name "LIMIT") :
    (orderTokens order ++ limitTokens limit).head? ≠ some token := by
  cases order with
  | none => exact head_limitTokens limit other'
  | some order => simpa [orderTokens] using other.symm

theorem readSelect_tokens (table : String) (columns : List String) (selection : Selection) :
    readSelect (Statement.select table columns selection).tokens =
      some (.select table columns selection, []) := by
  obtain ⟨conditions, order, limit⟩ := selection
  have none : ([] : List Token).head? ≠ some (.name "LIMIT") := by simp
  have limits := readLimit_append limit none
  rw [List.append_nil] at limits
  have orders := readOrder_append order (head_limitTokens limit (by simp))
  have wheres := readWhere_append conditions (head_orderTokens order limit (by simp) (by simp))
    (head_orderTokens order limit (by simp) (by simp))
  have names (rest : List Token) : readColumns (columnTokens columns ++ .name "FROM" :: rest) =
      some (columns, .name "FROM" :: rest) :=
    readColumns_append columns (by simp)
  simp only [Statement.tokens, readSelect, List.cons_append, List.nil_append, expect, if_true,
    Option.bind_some, names, word, wheres, orders, limits, Option.map_some]

/-- A SELECT is no COUNT, since no parenthesis follows its first column. -/
theorem readCount_select (table : String) (columns : List String) (selection : Selection) :
    readCount (Statement.select table columns selection).tokens = none := by
  rw [Statement.tokens, columnTokens]
  rcases columns with _ | ⟨first, _ | ⟨second, columns⟩⟩ <;>
    simp [readCount, expect, between, nameTokens]

/-- Every statement is read back from its tokens. -/
theorem read_tokens (statement : Statement) :
    Statement.read statement.tokens = some (statement, []) := by
  rw [Statement.read]
  cases statement with
  | insert table targets => rw [readInsert_tokens, Option.some_or]
  | select table columns selection =>
      have insert : readInsert (Statement.select table columns selection).tokens = none := by
        simp [readInsert, Statement.tokens, expect]
      have delete : readDelete (Statement.select table columns selection).tokens = none := by
        simp [readDelete, Statement.tokens, expect]
      rw [insert, delete, readCount_select, readSelect_tokens]
      rfl
  | count table conditions =>
      have insert : readInsert (Statement.count table conditions).tokens = none := by
        simp [readInsert, Statement.tokens, expect]
      have delete : readDelete (Statement.count table conditions).tokens = none := by
        simp [readDelete, Statement.tokens, expect]
      rw [insert, delete, readCount_tokens]
      rfl
  | delete table conditions =>
      have insert : readInsert (Statement.delete table conditions).tokens = none := by
        simp [readInsert, Statement.tokens, expect]
      rw [insert, readDelete_tokens]
      rfl

theorem parse_of_lexes {text : String} {statement : Statement}
    (lexes : Lexes text statement.tokens) : parse text = some statement := by
  rw [parse, lexes.whole, read_tokens]
  rfl

/-- What the steps of a statement return. -/
inductive Answer where
  | refused
  | done (success : Bool)
  | rows (columns : List String) (rows : List Row)
  | number (number : Option Nat)

namespace Engine

variable {schema : Schema} (engine : Engine schema) (name : String) (store : Store)
  (bindings : Bindings)

/-- Execute a statement on the store. -/
def execute : Statement → Answer × Store
  | .insert _ targets =>
      let step := engine.insert store bindings targets
      (.done step.1, step.2)
  | .select _ columns selection =>
      let step := engine.select store bindings selection
      (.rows (if columns = [] then schema.key :: schema.columns.map Prod.fst else columns) step.1,
        step.2)
  | .count _ conditions =>
      let step := engine.count store bindings conditions
      (.number step.1, step.2)
  | .delete _ conditions =>
      let step := engine.delete store bindings conditions
      (.done step.1, step.2)

/-- Prepare a text for the only table there is, and execute it; what is no statement on this table
is refused. -/
def run (text : String) : Answer × Store :=
  match parse text with
  | some statement =>
      if statement.table = name then engine.execute store bindings statement
      else (.refused, store)
  | none => (.refused, store)

theorem run_of_lexes {text : String} {statement : Statement}
    (lexes : Lexes text statement.tokens) (named : statement.table = name) :
    engine.run name store bindings text = engine.execute store bindings statement := by
  rw [run, parse_of_lexes lexes]
  exact if_pos named

end Engine

end Sql
