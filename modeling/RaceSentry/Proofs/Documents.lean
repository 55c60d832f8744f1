import RaceSentry.Toml.Text

/-!
# Names in documents

In every table of a document that was read, at any depth, no name occurs twice: a statement is
taken in only if it keeps this, whether it opens a table or assigns a value, and so are the
assignments inside braces. So what is under a name may be looked up or searched for alike.
Main statement: `unambiguous_of_parse?`.
-/

namespace RaceSentry

namespace Text.Reader

variable {α β : Type} {P : α → Prop} {Q : β → Prop}

/-- Whatever a reader takes has a property. -/
def Yields (P : α → Prop) (reader : Reader α) : Prop :=
  ∀ chars taken, reader chars = some taken → P taken.value

/-- A reader that takes nothing gives what it is made with. -/
theorem Yields.pure {value : α} (holds : P value) : Yields P (Pure.pure value) := by
  intro chars taken read
  cases read
  exact holds

/-- A reader that refuses gives nothing wrong. -/
theorem Yields.refuse : Yields P Reader.refuse := nofun

/-- Readers in a row give what the second one gives after the first. -/
theorem Yields.bind {first : Reader α} {second : α → Reader β} (one : first.Yields P)
    (two : ∀ value, P value → (second value).Yields Q) : Yields Q (first >>= second) := by
  intro chars taken read
  change next first second chars = some taken at read
  unfold next at read
  split at read
  · cases read
  · rename_i before reads
    split at read
    · cases read
    · rename_i later reads'
      cases read
      exact two before.value (one chars before reads) _ later reads'

/-- What was read before need not matter. -/
theorem Yields.after {first : Reader α} {second : α → Reader β}
    (two : ∀ value, (second value).Yields Q) : Yields Q (first >>= second) := by
  have one : first.Yields fun _ => True := fun _ _ _ => trivial
  exact one.bind fun value _ => two value

/-- A reader that is lifted gives what the function gives. -/
theorem Yields.lift {read : List Char → Option (α × List Char)}
    (reads : ∀ chars value rest, read chars = some (value, rest) → P value) :
    Yields P (Reader.lift read) := by
  intro chars taken found
  unfold Reader.lift at found
  split at found
  · cases found
  · rename_i value rest found'
    split at found
    · cases found
      exact reads chars value rest found'
    · cases found

/-- A reader of something that may be missing gives nothing, or what the reader gives. -/
theorem Yields.optional {reader : Reader α} (reads : reader.Yields P) :
    Yields (fun found => ∀ value ∈ found, P value) (Reader.optional reader) := by
  intro chars taken read
  unfold Reader.optional at read
  split at read
  · cases read
    intro value same
    cases same
  · rename_i before found
    cases read
    intro value same
    cases same
    exact reads chars before found

/-- Induction on what is left: every reading takes something, but for the last. -/
theorem Yields.many {item : Reader α} (reads : item.Yields P) :
    Yields (fun values => ∀ value ∈ values, P value) (Reader.many item) := by
  intro chars
  induction chars using Reader.many.induct item with
  | case1 chars none =>
    intro taken read
    rw [Reader.many, none] at read
    cases read
    exact nofun
  | case2 chars before found shorter none ih =>
    intro taken read
    rw [Reader.many, found] at read
    simp only [shorter, ↓reduceDIte, none] at read
    cases read
  | case3 chars before found shorter later rest ih =>
    intro taken read
    rw [Reader.many, found] at read
    simp only [shorter, ↓reduceDIte, rest] at read
    cases read
    intro value member
    rcases List.mem_cons.1 member with rfl | member
    · exact reads chars before found
    · exact ih later rest value member
  | case4 chars before found last =>
    intro taken read
    rw [Reader.many, found] at read
    simp only [last, ↓reduceDIte] at read
    cases read
    intro value member
    rw [List.mem_singleton.1 member]
    exact reads chars before found

/-- A reader of items between separators gives what the reader of an item gives, each time. -/
theorem Yields.separated {item : Reader α} {separator : Reader Unit} (reads : item.Yields P) :
    Yields (fun values => ∀ value ∈ values, P value) (Reader.separated item separator) := by
  refine reads.bind fun first holds => ?_
  refine Yields.bind (Yields.many (.after fun _ => reads)) ?_
  intro others hold
  refine .pure fun value member => ?_
  rcases List.mem_cons.1 member with rfl | member
  · exact holds
  · exact hold value member

/-- What is read of a whole text has the property as well. -/
theorem Yields.run? {reader : Reader α} (reads : reader.Yields P) {chars : List Char} {value : α}
    (read : reader.run? chars = some value) : P value := by
  have whole : Yields P (reader >>= fun value => finish >>= fun _ => Pure.pure value) :=
    reads.bind fun _ holds => .after fun _ => .pure holds
  unfold Reader.run? at read
  split at read
  · cases read
  · rename_i taken found
    cases read
    exact whole chars taken found

end Text.Reader

end RaceSentry

namespace RaceSentry.Toml

open RaceSentry.Text

section

variable {β : Type} {entries : List (String × β)} {name : String} {found : β}

/-- What is found under a name has that name. -/
theorem mem_of_lookup (looked : entries.lookup name = some found) : (name, found) ∈ entries := by
  obtain ⟨before, after, rfl, -⟩ := List.lookup_eq_some_iff.1 looked
  exact List.mem_append_right _ (List.mem_cons_self ..)

/-- Where no name occurs twice, what has a name is what is found under it. -/
theorem lookup_eq_some_iff_mem (names : (entries.map Prod.fst).Nodup) :
    entries.lookup name = some found ↔ (name, found) ∈ entries := by
  refine ⟨mem_of_lookup, fun member => ?_⟩
  obtain ⟨before, after, rfl⟩ := List.append_of_mem member
  rw [List.map_append, List.map_cons, List.nodup_append] at names
  refine List.lookup_eq_some_iff.2 ⟨before, after, rfl, fun entry earlier => ?_⟩
  have different : entry.1 ≠ name :=
    names.2.2 entry.1 (List.mem_map_of_mem earlier) name (List.mem_cons_self ..)
  simpa using different.symm

end

/-- In no table of a value does a name occur twice. -/
inductive Value.Unambiguous : Value → Prop where
  | boolean (flag : Bool) : Unambiguous (.boolean flag)
  | integer (number : Int) : Unambiguous (.integer number)
  | float (literal : String) : Unambiguous (.float literal)
  | moment (literal : String) : Unambiguous (.moment literal)
  | string (text : String) : Unambiguous (.string text)
  | array {items : List Value} (each : ∀ item ∈ items, Unambiguous item) :
      Unambiguous (.array items)
  | table {entries : List (String × Value)} (names : (entries.map Prod.fst).Nodup)
      (each : ∀ entry ∈ entries, Unambiguous entry.2) : Unambiguous (.table entries)

/-- In no table of a part of a document does a name occur twice. -/
inductive Node.Unambiguous : Node → Prop where
  | closed {value : Value} (value' : value.Unambiguous) : Unambiguous (.closed value)
  | table {origin : Origin} {entries : List (String × Node)}
      (names : (entries.map Prod.fst).Nodup) (each : ∀ entry ∈ entries, Unambiguous entry.2) :
      Unambiguous (.table origin entries)
  | tables {earlier : List Value} {entries : List (String × Node)}
      (before : ∀ value ∈ earlier, value.Unambiguous) (names : (entries.map Prod.fst).Nodup)
      (each : ∀ entry ∈ entries, Unambiguous entry.2) : Unambiguous (.tables earlier entries)

namespace Table

/-- In a table and the tables below no name occurs twice. -/
structure Unambiguous (table : Table) : Prop where
  /-- No name of the table itself does. -/
  names : (table.map Prod.fst).Nodup
  /-- None does below. -/
  each : ∀ entry ∈ table, entry.2.Unambiguous

variable {table : Table} {name : String} {node : Node}

/-- The values of a table are those of its entries, under the same names. -/
theorem values_eq_map (table : Table) :
    values table = List.map (fun entry => (entry.1, entry.2.value)) table := by
  induction table with
  | nil => rfl
  | cons entry rest ih =>
    rw [values, ih]
    rfl

/-- A table and its values have the same names. -/
theorem map_fst_values (table : Table) : (values table).map Prod.fst = table.map Prod.fst := by
  rw [values_eq_map, List.map_map]
  rfl

/-- An empty table is unambiguous. -/
theorem Unambiguous.nil : Unambiguous [] := ⟨.nil, nofun⟩

/-- A new name may be added. -/
theorem Unambiguous.add (unambiguous : table.Unambiguous) (new : table.lookup name = none)
    (node' : node.Unambiguous) : Unambiguous (table ++ [(name, node)]) where
  names := by
    have unused : ∀ entry ∈ table, entry.1 ≠ name := by
      intro entry member same
      have other := List.lookup_eq_none_iff.1 new entry member
      simp [same] at other
    rw [List.map_append, List.nodup_append]
    refine ⟨unambiguous.names, by simp, ?_⟩
    intro first member second last
    rw [List.map_singleton, List.mem_singleton] at last
    obtain ⟨entry, listed, rfl⟩ := List.mem_map.1 member
    rw [last]
    exact unused entry listed
  each := by
    intro entry member
    rcases List.mem_append.1 member with member | member
    · exact unambiguous.each entry member
    · rw [List.mem_singleton.1 member]
      exact node'

/-- What is under a name may be replaced. -/
theorem Unambiguous.put (unambiguous : table.Unambiguous) (node' : node.Unambiguous) :
    Unambiguous (put table name node) where
  names := by
    have same : (Table.put table name node).map Prod.fst = table.map Prod.fst := by
      rw [Table.put, List.map_map]
      apply List.map_congr_left
      intro entry _
      rw [Function.comp_apply]
      split
      · rename_i here
        exact (beq_iff_eq.1 here).symm
      · rfl
    rw [same]
    exact unambiguous.names
  each := by
    intro entry member
    obtain ⟨before, listed, rfl⟩ := List.mem_map.1 member
    split
    · exact node'
    · exact unambiguous.each before listed

end Table

/-- What an unambiguous part stands for is unambiguous. -/
theorem Node.Unambiguous.value {node : Node} (unambiguous : node.Unambiguous) :
    node.value.Unambiguous := by
  have table {entries : List (String × Node)} (names : (entries.map Prod.fst).Nodup)
      (each : ∀ entry ∈ entries, entry.2.value.Unambiguous) :
      (Value.table (Table.values entries)).Unambiguous := by
    refine .table (by rwa [Table.map_fst_values]) ?_
    rw [Table.values_eq_map]
    intro entry member
    obtain ⟨before, listed, rfl⟩ := List.mem_map.1 member
    exact each before listed
  induction unambiguous with
  | closed value => exact value
  | table names each ih => exact table names ih
  | tables before names each ih =>
    refine .array fun item member => ?_
    rcases List.mem_append.1 member with member | member
    · exact before item (List.mem_reverse.1 member)
    · rw [List.mem_singleton.1 member]
      exact table names ih

/-- What an unambiguous table stands for is unambiguous. -/
theorem Table.Unambiguous.value {table : Table} (unambiguous : table.Unambiguous) :
    (Value.table (Table.values table)).Unambiguous := by
  have node : Node.Unambiguous (.table .header table) := .table unambiguous.names unambiguous.each
  exact node.value

namespace Table

/-- Work on the table at the end of a path keeps a document unambiguous if it keeps that table
so. -/
theorem Unambiguous.atPath? {dotted : Bool} {work : Origin → Table → Option Table}
    (works : ∀ origin table worked, table.Unambiguous → work origin table = some worked →
      worked.Unambiguous) {origin : Origin} {path : List String} {table worked : Table}
    (unambiguous : table.Unambiguous) (done : atPath? dotted work origin path table = some worked) :
    worked.Unambiguous := by
  induction path generalizing origin table worked with
  | nil => exact works origin table worked unambiguous done
  | cons name path ih =>
    rw [Table.atPath?] at done
    split at done
    · rename_i new
      obtain ⟨inner, reached, rfl⟩ := Option.map_eq_some_iff.1 done
      have fresh := ih .nil reached
      exact unambiguous.add new (.table fresh.names fresh.each)
    · cases done
    · rename_i earlier entries found
      obtain ⟨inner, reached, rfl⟩ := Option.map_eq_some_iff.1 done
      cases unambiguous.each _ (mem_of_lookup found) with
      | tables before names each =>
        have below := ih ⟨names, each⟩ reached
        exact unambiguous.put (.tables before below.names below.each)
    · rename_i origin entries found
      split at done
      · cases done
      · obtain ⟨inner, reached, rfl⟩ := Option.map_eq_some_iff.1 done
        cases unambiguous.each _ (mem_of_lookup found) with
        | table names each =>
          have below := ih ⟨names, each⟩ reached
          exact unambiguous.put (.table below.names below.each)

variable {path : List String} {name : String} {table worked : Table}

/-- Assigning an unambiguous value keeps a table unambiguous. -/
theorem Unambiguous.assign? {value : Value} (value' : value.Unambiguous)
    (unambiguous : table.Unambiguous) (done : assign? path name value table = some worked) :
    worked.Unambiguous := by
  refine unambiguous.atPath? (fun origin inner worked unambiguous done => ?_) done
  split at done
  · cases done
  · split at done
    · cases done
    · rename_i new
      cases done
      exact unambiguous.add (Option.not_isSome_iff_eq_none.1 new) (.closed value')

/-- Opening a table keeps the document around it unambiguous. -/
theorem Unambiguous.openTable? (unambiguous : table.Unambiguous)
    (done : openTable? path name table = some worked) : worked.Unambiguous := by
  refine unambiguous.atPath? (fun origin inner worked unambiguous done => ?_) done
  split at done
  · rename_i new
    cases done
    exact unambiguous.add new (.table .nil nofun)
  · rename_i entries found
    cases done
    cases unambiguous.each _ (mem_of_lookup found) with
    | table names each => exact unambiguous.put (.table names each)
  · cases done

/-- Opening the next table of an array keeps the document around it unambiguous. -/
theorem Unambiguous.openNext? (unambiguous : table.Unambiguous)
    (done : openNext? path name table = some worked) : worked.Unambiguous := by
  refine unambiguous.atPath? (fun origin inner worked unambiguous done => ?_) done
  split at done
  · rename_i new
    cases done
    exact unambiguous.add new (.tables nofun .nil nofun)
  · rename_i earlier entries found
    cases done
    cases unambiguous.each _ (mem_of_lookup found) with
    | tables before names each =>
      have whole : (Value.table (values entries)).Unambiguous := Unambiguous.value ⟨names, each⟩
      refine unambiguous.put (.tables (fun value member => ?_) .nil nofun)
      rcases List.mem_cons.1 member with rfl | member
      · exact whole
      · exact before value member
  · cases done

end Table

/-- A statement does not bring in a name twice. -/
def Statement.Unambiguous : Statement → Prop
  | .assign _ _ value => value.Unambiguous
  | _ => True

namespace Document

variable {document next : Document} {statement : Statement}

/-- Taking in one statement keeps a document unambiguous. -/
theorem unambiguous_of_extend? (statement' : statement.Unambiguous)
    (unambiguous : document.root.Unambiguous) (done : document.extend? statement = some next) :
    next.root.Unambiguous := by
  cases statement with
  | assign path name value =>
    obtain ⟨root, reached, rfl⟩ := Option.map_eq_some_iff.1 done
    exact unambiguous.atPath? (fun _ _ _ unambiguous done =>
      unambiguous.assign? statement' done) reached
  | openTable path name =>
    obtain ⟨root, reached, rfl⟩ := Option.map_eq_some_iff.1 done
    exact unambiguous.openTable? reached
  | openNext path name =>
    obtain ⟨root, reached, rfl⟩ := Option.map_eq_some_iff.1 done
    exact unambiguous.openNext? reached

/-- Taking in statements one after another keeps a document unambiguous. -/
theorem unambiguous_of_foldlM {statements : List Statement}
    (each : ∀ statement ∈ statements, statement.Unambiguous)
    (unambiguous : document.root.Unambiguous)
    (done : statements.foldlM extend? document = some next) : next.root.Unambiguous := by
  induction statements generalizing document with
  | nil =>
    cases done
    exact unambiguous
  | cons statement rest ih =>
    rw [List.foldlM_cons] at done
    obtain ⟨between, extended, done⟩ := Option.bind_eq_some_iff.1 done
    have first := each statement (List.mem_cons_self ..)
    exact ih (fun other member => each other (List.mem_cons_of_mem _ member))
      (unambiguous_of_extend? first unambiguous extended) done

/-- The table that statements make has no name twice. -/
theorem unambiguous_of_statements {statements : List Statement}
    (each : ∀ statement ∈ statements, statement.Unambiguous)
    {entries : List (String × Value)} (made : ofStatements? statements = some entries) :
    (Value.table entries).Unambiguous := by
  obtain ⟨document, done, rfl⟩ := Option.map_eq_some_iff.1 made
  exact (unambiguous_of_foldlM each .nil done).value

end Document

/-- Words are no tables. -/
theorem unambiguous_of_wordValue? {word : List Char} {value : Value}
    (read : wordValue? word = some value) : value.Unambiguous := by
  unfold wordValue? at read
  split at read
  · cases read
    exact .boolean _
  · split at read
    · cases read
      exact .boolean _
    · split at read
      · cases read
        exact .moment _
      · split at read
        · cases read
          exact .float _
        · obtain ⟨number, -, rfl⟩ := Option.map_eq_some_iff.1 read
          exact .integer _

/-- A value without parts is unambiguous. -/
theorem unambiguous_of_scalar? {chars rest : List Char} {value : Value}
    (read : scalar? chars = some (value, rest)) : value.Unambiguous := by
  unfold scalar? at read
  dsimp only at read
  split at read
  · split at read
    · split at read
      · cases read
        exact .moment _
      · cases read
    · obtain ⟨value, found, same⟩ := Option.map_eq_some_iff.1 read
      cases same
      exact unambiguous_of_wordValue? found
  · obtain ⟨value, found, same⟩ := Option.map_eq_some_iff.1 read
    cases same
    exact unambiguous_of_wordValue? found

/-- Assignments inside braces bring in no name twice. -/
theorem unambiguous_of_fields {fields : List (List String × String × Value)}
    (each : ∀ field ∈ fields, field.2.2.Unambiguous) {table made : Table}
    (unambiguous : table.Unambiguous)
    (done : fields.foldlM (fun table (path, name, value) =>
      Table.assign? path name value table) table = some made) : made.Unambiguous := by
  induction fields generalizing table with
  | nil =>
    cases done
    exact unambiguous
  | cons field rest ih =>
    rw [List.foldlM_cons] at done
    obtain ⟨between, assigned, done⟩ := Option.bind_eq_some_iff.1 done
    have first := each field (List.mem_cons_self ..)
    exact ih (fun other member => each other (List.mem_cons_of_mem _ member))
      (unambiguous.assign? first assigned) done

section

variable {value : Reader Value} (reads : value.Yields Value.Unambiguous)
include reads

/-- A reader of assignments gives an unambiguous value if the reader of values does. -/
theorem yields_assignment :
    (assignment value).Yields fun field => field.2.2.Unambiguous := by
  refine .after fun _ => ?_
  refine .after fun _ => ?_
  refine .after fun _ => ?_
  exact reads.bind fun _ holds => .pure holds

/-- A reader of what is left of an array gives an unambiguous one if the reader of values does. -/
theorem yields_arrayRest : (arrayRest value).Yields Value.Unambiguous := by
  have item : Reader.Yields Value.Unambiguous (do filler; let item ← value; filler; return item) :=
    .after fun _ => reads.bind fun _ holds =>
      .after fun _ => .pure holds
  refine Reader.Yields.bind (Reader.Yields.optional
    (item.separated.bind fun _ each =>
      .after fun _ => .pure each)) ?_
  intro items each
  refine .after fun _ => ?_
  refine .after fun _ => .pure (.array ?_)
  cases items with
  | none => exact nofun
  | some items => exact each items rfl

/-- A reader of what is left of a table between braces gives an unambiguous one if the reader of
values does. -/
theorem yields_inlineTableRest : (inlineTableRest value).Yields Value.Unambiguous := by
  have field : Reader.Yields (fun field => Value.Unambiguous field.2.2)
      (do let field ← assignment value; spaces; return field) :=
    (yields_assignment reads).bind fun _ holds =>
      .after fun _ => .pure holds
  refine .after fun _ => ?_
  refine Reader.Yields.bind (Reader.Yields.optional field.separated) fun fields each => ?_
  refine .after fun _ => ?_
  refine .after fun _ => ?_
  dsimp only
  split
  · rename_i entries made
    have listed : ∀ field ∈ fields.getD [], field.2.2.Unambiguous := by
      cases fields with
      | none => exact nofun
      | some fields => exact each fields rfl
    exact .pure (unambiguous_of_fields listed .nil made).value
  · exact .refuse

end

/-- Induction on the depth to which arrays and inline tables may be nested. -/
theorem yields_value (room : Nat) : (value room).Yields Value.Unambiguous := by
  have text : Reader.Yields Value.Unambiguous
      (do return .string (String.ofList (← Reader.lift string?))) :=
    .after fun _ => .pure (.string _)
  have scalar : Reader.Yields Value.Unambiguous (Reader.lift scalar?) :=
    .lift fun _ _ _ => unambiguous_of_scalar?
  induction room with
  | zero =>
    refine .after fun _ => ?_
    split
    · exact text
    · exact text
    · exact scalar
  | succ room ih =>
    refine .after fun _ => ?_
    split
    · exact .after fun _ => yields_arrayRest ih
    · exact .after fun _ => yields_inlineTableRest ih
    · exact text
    · exact text
    · exact scalar

/-- A header is an unambiguous statement. -/
theorem yields_header : header.Yields Statement.Unambiguous := by
  refine .after fun _ => ?_
  refine .after fun _ => ?_
  split
  · refine .after fun _ => ?_
    refine .after fun _ => ?_
    refine .after fun _ => ?_
    exact .after fun _ => .pure trivial
  · refine .after fun _ => ?_
    exact .after fun _ => .pure trivial

/-- A line has an unambiguous statement, if it has any. -/
theorem yields_line :
    line.Yields fun found => ∀ statement ∈ found, statement.Unambiguous := by
  refine .after fun _ => ?_
  refine .after fun _ => ?_
  have some' {statement : Statement} (holds : statement.Unambiguous) :
      ∀ other ∈ some statement, other.Unambiguous := by
    intro other same
    cases same
    exact holds
  split
  · exact .refuse
  · exact .after fun _ => .pure nofun
  · exact .after fun _ => .pure nofun
  · exact .after fun _ => .pure nofun
  · exact yields_header.bind fun _ holds =>
      .after fun _ => .pure (some' holds)
  · exact (yields_assignment (yields_value nestingLimit)).bind fun _ holds =>
      .after fun _ => .pure (some' holds)

/-- A document is read as unambiguous statements. -/
theorem yields_statements :
    statements.Yields fun statements => ∀ statement ∈ statements, statement.Unambiguous := by
  refine Reader.Yields.bind (Reader.Yields.many yields_line) fun lines each => ?_
  refine .after fun _ => .pure fun statement member => ?_
  obtain ⟨line, listed, same⟩ := List.mem_filterMap.1 member
  exact each line listed statement same

/-- In no table of a document that was read does a name occur twice. -/
theorem unambiguous_of_parse? {text : String} {document : List (String × Value)}
    (parsed : parse? text = some document) : (Value.table document).Unambiguous := by
  unfold parse? at parsed
  obtain ⟨statements, read, made⟩ := Option.bind_eq_some_iff.1 parsed
  exact Document.unambiguous_of_statements (yields_statements.run? read) made

end RaceSentry.Toml
