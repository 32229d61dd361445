import TemplateCheck.Toml.Scalar

/-! # TOML statements

A document is a list of statements: a table header, a header of one more table
in a list, or a key with its value. Keys are paths of names. Arrays and inline
tables may reach over several lines, and at most eighty of them may be nested. -/

namespace TemplateCheck.Toml

inductive Statement where
  | table (path : List String)
  | tableItem (path : List String)
  | assign (path : List String) (value : Json)
  deriving Repr, Inhabited

/-- Skip blanks, line breaks and comments. The flag says that a comment is open. -/
def skipFill : Bool → List Char → Option (List Char)
  | _, [] => some []
  | inComment, character :: rest =>
      if character = '\n' then skipFill false rest
      else if character = '\r' then
        if rest.head? == some '\n' then skipFill inComment rest else none
      else if inComment then
        if isControl character then none else skipFill true rest
      else if isInlineSpace character then skipFill false rest
      else if character = '#' then skipFill true rest
      else some (character :: rest)

/-- The rest of a line must be blank or a comment. -/
def endLine : Bool → List Char → Option (List Char)
  | _, [] => some []
  | inComment, character :: rest =>
      if character = '\n' then some rest
      else if character = '\r' then
        if rest.head? == some '\n' then endLine inComment rest else none
      else if inComment then
        if isControl character then none else endLine true rest
      else if isInlineSpace character then endLine false rest
      else if character = '#' then endLine true rest
      else none

def isBareKeyChar (character : Char) : Bool :=
  character.isAlphanum || character = '_' || character = '-'

def keyName : Reader String := fun input =>
  match input with
  | [] => none
  | first :: _ =>
      if first = '"' || first = '\'' then shortString input
      else
        let bare := input.takeWhile isBareKeyChar
        if bare.isEmpty then none else some (String.ofList bare, input.drop bare.length)

/-- The names after a dot. The bound is the length of the input. -/
def moreNames : Nat → List Char → Option (List String × List Char)
  | 0, input => some ([], input)
  | bound + 1, input =>
      match skipInline input with
      | '.' :: rest => do
          let (name, rest) ← keyName (skipInline rest)
          let (names, rest) ← moreNames bound rest
          return (name :: names, rest)
      | rest => some ([], rest)

def keyPath : Reader (List String) := fun input => do
  let (name, rest) ← keyName (skipInline input)
  let (names, rest) ← moreNames rest.length rest
  return (name :: names, rest)

def assignment (value : Reader Json) : Reader (List String × Json) := fun input => do
  let (path, rest) ← keyPath input
  match skipInline rest with
  | '=' :: rest =>
      let (json, rest) ← value (skipInline rest)
      return ((path, json), rest)
  | _ => none

/-! Inline tables are built from their assignments at once; a name may not be
given twice, and only names that stand for such tables may be extended. -/

/-- Values that are still being built: `closed` values cannot be extended. -/
inductive Draft where
  | closed (value : Json)
  | open_ (members : List (String × Draft))
  deriving Repr, Inhabited

mutual

def Draft.toJson : Draft → Json
  | .closed value => value
  | .open_ members => .obj (Draft.membersToJson members)

def Draft.membersToJson : List (String × Draft) → List (String × Json)
  | [] => []
  | (name, draft) :: rest => (name, draft.toJson) :: Draft.membersToJson rest

end

/-- Replace the value of a name that is there, or add it at the end. -/
def setMember {value : Type} (name : String) (content : value) :
    List (String × value) → List (String × value)
  | [] => [(name, content)]
  | (headName, headContent) :: tail =>
      if headName = name then (name, content) :: tail
      else (headName, headContent) :: setMember name content tail

/-- Give a path of names a value. -/
def Draft.assign? : List (String × Draft) → List String → Json → Option (List (String × Draft))
  | _, [], _ => none
  | members, [name], value =>
      if (members.lookup name).isSome then none else some (members ++ [(name, .closed value)])
  | members, name :: rest, value =>
      match members.lookup name with
      | none => do
          let inner ← Draft.assign? [] rest value
          return members ++ [(name, .open_ inner)]
      | some (.open_ inner) => do
          let extended ← Draft.assign? inner rest value
          return setMember name (.open_ extended) members
      | some (.closed _) => none

def moreArrayItems (value : Reader Json) : Nat → List Char → Option (List Json × List Char)
  | 0, _ => none
  | bound + 1, input => do
      match ← skipFill false input with
      | ']' :: rest => some ([], rest)
      | ',' :: rest =>
          match ← skipFill false rest with
          | ']' :: rest => some ([], rest)
          | rest =>
              let (item, rest) ← value rest
              let (items, rest) ← moreArrayItems value bound rest
              return (item :: items, rest)
      | _ => none

def array (value : Reader Json) : Reader Json := fun input => do
  match ← skipFill false input with
  | ']' :: rest => return (.arr [], rest)
  | rest =>
      let (item, rest) ← value rest
      let (items, rest) ← moreArrayItems value (rest.length + 1) rest
      return (.arr (item :: items), rest)

def moreAssignments (value : Reader Json) :
    Nat → List Char → Option (List (List String × Json) × List Char)
  | 0, _ => none
  | bound + 1, input => do
      match ← skipFill false input with
      | [] => none
      | mark :: rest =>
          if mark = Json.closeBrace then some ([], rest)
          else if mark = ',' then
            match ← skipFill false rest with
            | [] => none
            | next :: after =>
                if next = Json.closeBrace then some ([], after)
                else
                  let (first, rest) ← assignment value (next :: after)
                  let (others, rest) ← moreAssignments value bound rest
                  return (first :: others, rest)
          else none

/-- The assignments of an inline table after its opening brace. -/
def assignments (value : Reader Json) (input : List Char) :
    Option (List (List String × Json) × List Char) := do
  match ← skipFill false input with
  | [] => none
  | mark :: rest =>
      if mark = Json.closeBrace then some ([], rest)
      else
        let (first, rest) ← assignment value (mark :: rest)
        let (others, rest) ← moreAssignments value (rest.length + 1) rest
        return (first :: others, rest)

def inlineTable (value : Reader Json) : Reader Json := fun input => do
  let (given, rest) ← assignments value input
  let members ← given.foldlM (fun members (path, json) => Draft.assign? members path json) []
  return (.obj (Draft.membersToJson members), rest)

/-- A value, whose nested values are read by the given reader. -/
def valueWith (nested : Option (Reader Json)) : Reader Json := fun input =>
  match input with
  | [] => none
  | mark :: rest =>
      if mark = '"' || mark = '\'' then
        (anyString input).map fun (text, after) => (.str text, after)
      else if mark = '[' then nested.bind fun value => array value rest
      else if mark = Json.openBrace then nested.bind fun value => inlineTable value rest
      else bareValue input

/-- A value with at most the given number of containers inside one another. -/
def value : Nat → Reader Json
  | 0 => valueWith none
  | levels + 1 => valueWith (some (value levels))

def greatestDepth : Nat := 80

/-- One statement, without the rest of its line. -/
def statement : Reader Statement := fun input =>
  match input with
  | '[' :: '[' :: rest => do
      let (path, rest) ← keyPath rest
      match skipInline rest with
      | ']' :: ']' :: rest => return (.tableItem path, rest)
      | _ => none
  | '[' :: rest => do
      let (path, rest) ← keyPath rest
      match skipInline rest with
      | ']' :: rest => return (.table path, rest)
      | _ => none
  | _ => do
      let ((path, json), rest) ← assignment (value greatestDepth) input
      return (.assign path json, rest)

/-- The statements of a document. The bound is the length of the input. -/
def statements : Nat → List Char → Option (List Statement)
  | 0, input => do
      let rest ← skipFill false input
      if rest.isEmpty then some [] else none
  | bound + 1, input => do
      let rest ← skipFill false input
      if rest.isEmpty then some []
      else
        let (first, rest) ← statement rest
        let rest ← endLine false rest
        let others ← statements bound rest
        return first :: others

end TemplateCheck.Toml
