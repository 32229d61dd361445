import TemplateCheck.Proofs.Members
import TemplateCheck.Toml.Document

/-! # Tables of a TOML document

A document gives every table once. A table whose values are texts can be written so that it is
read back, whatever its names and texts are.
-/

namespace TemplateCheck.Toml

open Members (Once)

/-! ## Every name once -/

theorem once_openTable {name : String} {members next : Members} (once : Once members)
    (opened : openTable name members = some next) : Once next := by
  unfold openTable at opened
  split at opened
  · next absent =>
      cases opened
      exact once.concat absent _
  · cases opened
    refine (once.filter _).concat (Members.lookup_eq_none_iff.mpr ?_) _
    simp
  · cases opened

theorem once_openItem {name : String} {members next : Members} (once : Once members)
    (opened : openItem name members = some next) : Once next := by
  unfold openItem at opened
  split at opened
  · next absent =>
      cases opened
      exact once.concat absent _
  · next found =>
      cases opened
      exact once.setMember found _
  · cases opened

theorem once_assign {isHolder : Bool} {path : List String} {value : Json}
    {members next : Members} (once : Once members)
    (assigned : assign isHolder path value members = some next) : Once next := by
  unfold assign at assigned
  split at assigned
  · cases assigned
  · split at assigned
    · cases assigned
    · next free =>
        cases assigned
        simp only [Bool.or_eq_true, not_or, Bool.not_eq_true, Option.isSome_eq_false_iff,
          Option.isNone_iff_eq_none] at free
        exact once.concat free.2 _
  · split at assigned
    · next absent =>
        rcases Option.bind_eq_some_iff.mp assigned with ⟨inner, -, same⟩
        cases same
        exact once.concat absent _
    · cases assigned
    · next _ found =>
        rcases Option.bind_eq_some_iff.mp assigned with ⟨inner, -, same⟩
        cases same
        exact once.setMember found _
    · cases assigned

/-- An edit below leaves the names as they are, but that it may add one. -/
theorem once_within {edit : Members → Option Members}
    (keeps : ∀ {members next}, Once members → edit members = some next → Once next)
    {path : List String} {members next : Members} (once : Once members)
    (edited : within edit path members = some next) : Once next := by
  cases path with
  | nil => exact keeps once edited
  | cons name rest =>
      unfold within at edited
      split at edited
      · next absent =>
          rcases Option.bind_eq_some_iff.mp edited with ⟨inner, -, same⟩
          cases same
          exact once.concat absent _
      · next found =>
          rcases Option.bind_eq_some_iff.mp edited with ⟨inner, -, same⟩
          cases same
          exact once.setMember found _
      · next found =>
          rcases Option.bind_eq_some_iff.mp edited with ⟨inner, -, same⟩
          cases same
          exact once.setMember found _
      · cases edited

theorem once_add {building next : Building} {statement : Statement}
    (once : Once building.members) (added : building.add statement = some next) :
    Once next.members := by
  cases statement with
  | table path =>
      rcases Option.bind_eq_some_iff.mp added with ⟨members, edited, same⟩
      cases same
      exact once_within once_openTable once edited
  | tableItem path =>
      rcases Option.bind_eq_some_iff.mp added with ⟨members, edited, same⟩
      cases same
      exact once_within once_openItem once edited
  | assign path value =>
      rcases Option.bind_eq_some_iff.mp added with ⟨members, edited, same⟩
      cases same
      exact once_within once_assign once edited

theorem once_built {statements : List Statement} {building built : Building}
    (once : Once building.members) (added : statements.foldlM Building.add building = some built) :
    Once built.members := by
  induction statements generalizing building with
  | nil =>
      cases added
      exact once
  | cons statement rest induction =>
      rw [List.foldlM_cons] at added
      rcases Option.bind_eq_some_iff.mp added with ⟨next, first, later⟩
      exact induction (once_add once first) later

theorem map_nodesToJson (members : Members) :
    (nodesToJson members).map Prod.fst = members.map Prod.fst := by
  induction members with
  | nil => rfl
  | cons member rest induction =>
      rcases member with ⟨name, node⟩
      rw [nodesToJson, List.map_cons, List.map_cons, induction]

theorem once_of_parse {text : String} {sections : List (String × Json)}
    (parsed : parse text = some (.obj sections)) : Once sections := by
  rcases Option.bind_eq_some_iff.mp parsed with ⟨list, -, built⟩
  rcases Option.bind_eq_some_iff.mp built with ⟨building, added, same⟩
  cases same
  rw [Once, map_nodesToJson]
  have empty : Once ({} : Building).members := List.nodup_nil
  exact once_built empty added

/-! ## Writing -/

/-- A character as it stands in a string in double quotes. -/
def quotedChar (character : Char) : List Char :=
  if character = '"' then ['\\', '"']
  else if character = '\\' then ['\\', '\\']
  else if isControl character then
    ['\\', 'u', '0', '0', Nat.digitChar (character.toNat / 16),
      Nat.digitChar (character.toNat % 16)]
  else [character]

/-- The rest of a string in double quotes. -/
def quotedRest (text : String) : List Char :=
  text.toList.flatMap quotedChar ++ ['"']

/-- A name with a text, as a line. -/
def lineChars (name text : String) : List Char :=
  '"' :: (quotedRest name ++ [' ', '=', ' ', '"'] ++ quotedRest text ++ ['\n'])

/-- A table with its header. -/
def tableChars (name : String) (members : List (String × String)) : List Char :=
  ['[', '"'] ++ quotedRest name ++ [']', '\n'] ++
    members.flatMap fun member => lineChars member.1 member.2

def write (name : String) (members : List (String × String)) : String :=
  String.ofList (tableChars name members)

theorem codeEscape?_control {character : Char} (control : isControl character = true)
    (rest : List Char) :
    codeEscape? 4 ('0' :: '0' :: Nat.digitChar (character.toNat / 16) ::
      Nat.digitChar (character.toNat % 16) :: rest) = some ([character], 5) := by
  have all : ∀ code < 0x80, codeEscape? 4 ['0', '0', Nat.digitChar (code / 16),
      Nat.digitChar (code % 16)] = some ([Char.ofNat code], 5) := by
    decide +kernel
  have small : character.toNat < 0x80 := by
    simp only [isControl, Bool.or_eq_true, Bool.and_eq_true, decide_eq_true_eq] at control
    omega
  have read := all character.toNat small
  rw [Char.ofNat_toNat] at read
  exact read

theorem basicBody_quotedChar (character : Char) (rest : List Char) :
    basicBody 0 (quotedChar character ++ rest) =
      (basicBody 0 rest).map fun (body, after) => (character :: body, after) := by
  unfold quotedChar
  split
  · next isQuote => subst isQuote; rfl
  · split
    · next isSlash => subst isSlash; rfl
    · split
      · next control =>
          have read := codeEscape?_control control rest
          simp only [List.cons_append, List.nil_append, basicBody, escape?]
          simp [read, basicBody]
      · next notQuote notSlash notControl =>
          simp [basicBody, notQuote, notSlash, notControl]

theorem basicBody_quotedRest (text : String) (rest : List Char) :
    basicBody 0 (quotedRest text ++ rest) = some (text.toList, rest) := by
  have all : ∀ characters : List Char,
      basicBody 0 (characters.flatMap quotedChar ++ '"' :: rest) = some (characters, rest) := by
    intro characters
    induction characters with
    | nil => simp [basicBody]
    | cons character others induction =>
        rw [List.flatMap_cons, List.append_assoc, basicBody_quotedChar, induction]
        rfl
  rw [quotedRest, List.append_assoc]
  exact all text.toList

theorem shortString_quoted (text : String) (rest : List Char) :
    shortString ('"' :: (quotedRest text ++ rest)) = some (text, rest) := by
  simp [shortString, basicBody_quotedRest]

/-! ## Reading back -/

theorem skipInline_of_head {character : Char} (visible : isInlineSpace character = false)
    (rest : List Char) : skipInline (character :: rest) = character :: rest := by
  simp [skipInline, visible]

theorem quotedChar_eq_cons (character : Char) :
    ∃ mark more, quotedChar character = mark :: more ∧ mark ≠ '"' := by
  unfold quotedChar
  split
  · exact ⟨'\\', _, rfl, by decide⟩
  · next notQuote =>
      split
      · exact ⟨'\\', _, rfl, by decide⟩
      · split
        · exact ⟨'\\', _, rfl, by decide⟩
        · exact ⟨character, [], rfl, notQuote⟩

/-- A string is taken for a long one only if a third quote follows an empty text. -/
theorem anyString_quoted (text : String) {rest : List Char} (apart : rest.head? ≠ some '"') :
    anyString ('"' :: (quotedRest text ++ rest)) = some (text, rest) := by
  have short : ∀ others, quotedRest text ++ rest ≠ '"' :: '"' :: others := by
    intro others same
    unfold quotedRest at same
    cases characters : text.toList with
    | nil =>
        rw [characters] at same
        have isRest : rest = '"' :: others := (List.cons.inj same).2
        exact apart (by rw [isRest]; rfl)
    | cons first more =>
        rcases quotedChar_eq_cons first with ⟨mark, behind, isCons, notQuote⟩
        rw [characters, List.flatMap_cons, isCons] at same
        exact notQuote (List.cons.inj same).1
  unfold anyString
  split
  · next others same => exact absurd (List.cons.inj same).2 (short others)
  · next same => cases same
  · exact shortString_quoted text rest

theorem moreNames_of_head {rest : List Char} (last : (skipInline rest).head? ≠ some '.') :
    moreNames rest.length rest = some ([], skipInline rest) := by
  cases rest with
  | nil => rfl
  | cons first others =>
      rw [List.length_cons, moreNames]
      split
      · next dotted => simp [dotted] at last
      · rfl

theorem keyPath_quoted (name : String) {rest : List Char}
    (last : (skipInline rest).head? ≠ some '.') :
    keyPath ('"' :: (quotedRest name ++ rest)) = some ([name], skipInline rest) := by
  rw [keyPath, skipInline_of_head rfl]
  simp [keyName, shortString_quoted, moreNames_of_head last]

theorem statement_header (name : String) (rest : List Char) :
    statement ('[' :: '"' :: (quotedRest name ++ ']' :: rest)) = some (.table [name], rest) := by
  have visible : skipInline (']' :: rest) = ']' :: rest := skipInline_of_head rfl rest
  have key := @keyPath_quoted name (']' :: rest) (by simp [visible])
  simp [statement, key, visible]

theorem value_of_quoted {input : List Char} {text : String} {rest : List Char}
    (read : anyString ('"' :: input) = some (text, rest)) :
    value greatestDepth ('"' :: input) = some (.str text, rest) := by
  rw [greatestDepth, value, valueWith]
  simp [read]

theorem statement_line (name text : String) (rest : List Char) :
    statement (lineChars name text ++ rest) = some (.assign [name] (.str text), '\n' :: rest) := by
  have written : lineChars name text ++ rest = '"' :: (quotedRest name ++
      ' ' :: '=' :: ' ' :: '"' :: (quotedRest text ++ '\n' :: rest)) := by
    simp [lineChars]
  have equals : ∀ others, skipInline (' ' :: '=' :: others) = '=' :: others := fun others => rfl
  have quote : ∀ others, skipInline (' ' :: '"' :: others) = '"' :: others := fun others => rfl
  have stays : ∀ others, skipInline ('=' :: others) = '=' :: others := fun others => rfl
  have key := @keyPath_quoted name
    (' ' :: '=' :: ' ' :: '"' :: (quotedRest text ++ '\n' :: rest)) (by simp [equals])
  have string := value_of_quoted (@anyString_quoted text ('\n' :: rest) (by simp))
  rw [written, statement]
  · simp [assignment, key, equals, stays, quote, string]
  · nofun
  · nofun

theorem statements_cons {bound : Nat} {mark : Char} {input rest after : List Char}
    {first : Statement} {others : List Statement}
    (starts : skipFill false (mark :: input) = some (mark :: input))
    (read : statement (mark :: input) = some (first, rest))
    (ended : endLine false rest = some after) (later : statements bound after = some others) :
    statements (bound + 1) (mark :: input) = some (first :: others) := by
  rw [statements]
  simp [starts, read, ended, later]

/-- The lines of a table are read one by one. -/
theorem statements_lines {bound : Nat} {members : List (String × String)}
    (enough : members.length ≤ bound) :
    statements bound (members.flatMap fun member => lineChars member.1 member.2) =
      some (members.map fun member => .assign [member.1] (.str member.2)) := by
  induction members generalizing bound with
  | nil => cases bound <;> rfl
  | cons member rest induction =>
      cases bound with
      | zero => cases enough
      | succ bound =>
          exact statements_cons rfl (statement_line member.1 member.2 _) rfl
            (induction (Nat.le_of_succ_le_succ enough))

theorem length_le_lines (members : List (String × String)) :
    members.length ≤ (members.flatMap fun member => lineChars member.1 member.2).length := by
  induction members with
  | nil => exact Nat.le_refl 0
  | cons member rest induction =>
      rw [List.flatMap_cons, List.length_append, List.length_cons, lineChars, List.length_cons]
      omega

theorem statements_table (name : String) (members : List (String × String)) :
    statements (tableChars name members).length (tableChars name members) =
      some (.table [name] :: members.map fun member => .assign [member.1] (.str member.2)) := by
  have written : tableChars name members = '[' :: '"' :: (quotedRest name ++ ']' :: '\n' ::
      members.flatMap fun member => lineChars member.1 member.2) := by
    simp [tableChars]
  have enough := length_le_lines members
  rw [written, List.length_cons]
  refine statements_cons rfl (statement_header name _) rfl (statements_lines ?_)
  simp only [List.length_cons, List.length_append]
  omega

/-! ## Building -/

/-- A document with one table. -/
def single (name : String) (members : List (String × String)) : Building where
  members := [(name, .table .header (members.map fun member => (member.1, .leaf (.str member.2))))]
  header := [name]

theorem add_assign {name : String} {before : List (String × String)} {member : String × String}
    (absent : before.lookup member.1 = none) :
    (single name before).add (.assign [member.1] (.str member.2)) =
      some (single name (before ++ [member])) := by
  have free : (before.map fun member => (member.1, Node.leaf (.str member.2))).lookup member.1 =
      none := by
    rw [Members.lookup_eq_none_iff, List.map_map]
    exact Members.lookup_eq_none_iff.mp absent
  simp [single, Building.add, within, assign, free, setMember]

theorem add_members {name : String} {members before : List (String × String)}
    (once : Once (before ++ members)) :
    (members.map fun member => .assign [member.1] (.str member.2)).foldlM Building.add
      (single name before) = some (single name (before ++ members)) := by
  induction members generalizing before with
  | nil => simp
  | cons member rest induction =>
      have absent : before.lookup member.1 = none := by
        rw [Members.lookup_eq_none_iff]
        rw [Once, List.map_append, List.map_cons, List.nodup_append] at once
        intro inBefore
        exact once.2.2 _ inBefore _ List.mem_cons_self rfl
      rw [List.map_cons, List.foldlM_cons, add_assign absent]
      have later := @induction (before ++ [member]) (by simpa using once)
      simpa using later

theorem nodesToJson_leaves (members : List (String × String)) :
    nodesToJson (members.map fun member => (member.1, .leaf (.str member.2))) =
      members.map fun member => (member.1, .str member.2) := by
  induction members with
  | nil => rfl
  | cons member rest induction =>
      rw [List.map_cons, nodesToJson, induction]
      rfl

/-- A written table is read back. -/
theorem parse_write {members : List (String × String)} (once : Once members) (name : String) :
    parse (write name members) =
      some (.obj [(name, .obj (members.map fun member => (member.1, .str member.2)))]) := by
  have input : dropByteOrderMark (write name members).toList = tableChars name members := by
    rw [write, String.toList_ofList]
    rfl
  have opened : Building.add {} (.table [name]) = some (single name []) := rfl
  have built : (Statement.table [name] :: members.map fun member =>
      .assign [member.1] (.str member.2)).foldlM Building.add {} = some (single name members) := by
    rw [List.foldlM_cons, opened]
    exact add_members once
  rw [parse, input, statements_table]
  simp [built, single, nodesToJson, Node.toJson, nodesToJson_leaves]

end TemplateCheck.Toml
