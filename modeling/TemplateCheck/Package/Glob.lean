import TemplateCheck.Json.Printer
import TemplateCheck.Text.Utf8

/-! # Name patterns

Patterns for file names, matched byte by byte: `*` stands for any bytes, `?` for
one byte, a class in brackets for one of its members, a group in braces for one
of its branches, and a backslash takes the meaning from the character after it.
-/

namespace TemplateCheck.Package.Glob

inductive Token where
  | byte (value : UInt8)
  | anyByte
  | anyBytes
  | oneOf (negated : Bool) (ranges : List (UInt8 × UInt8))
  | either (branches : List (List Token))
  deriving Repr, Inhabited

/-- Why a pattern cannot be read. -/
inductive Fault where
  | danglingEscape
  | unclosedClass
  | invalidRange (first last : Char)
  | unopenedGroup
  | unclosedGroup
  deriving Repr, DecidableEq

def Fault.message : Fault → String
  | .danglingEscape => "dangling '\\'"
  | .unclosedClass => "unclosed character class; missing ']'"
  | .invalidRange first last =>
      "invalid range; '" ++ String.ofList [first] ++ "' > '" ++ String.ofList [last] ++ "'"
  | .unopenedGroup =>
      "unopened alternate group; missing '\x7b' (maybe escape '\x7d' with '[\x7d]'?)"
  | .unclosedGroup =>
      "unclosed alternate group; missing '\x7d' (maybe escape '\x7b' with '[\x7b]'?)"

/-! Matching computes what can be left of a name after a token. -/

/-- All endings of a list, the list itself first. -/
def endings : List UInt8 → List (List UInt8)
  | [] => [[]]
  | first :: rest => (first :: rest) :: endings rest

mutual

/-- What can be left after a token. -/
def leftAfter : Token → List UInt8 → List (List UInt8)
  | .byte value, name =>
      match name with
      | first :: rest => if first = value then [rest] else []
      | [] => []
  | .anyByte, name =>
      match name with
      | _ :: rest => [rest]
      | [] => []
  | .anyBytes, name => endings name
  | .oneOf negated ranges, name =>
      match name with
      | first :: rest =>
          let inside := ranges.any fun (low, high) => low ≤ first && first ≤ high
          if inside != negated then [rest] else []
      | [] => []
  | .either branches, name => leftAfterAny branches name

/-- What can be left after all tokens of a list. -/
def leftAfterAll : List Token → List UInt8 → List (List UInt8)
  | [], name => [name]
  | token :: rest, name => (leftAfter token name).flatMap (leftAfterAll rest)

/-- What can be left after one of several lists. Empty ones do not count. -/
def leftAfterAny : List (List Token) → List UInt8 → List (List UInt8)
  | [], _ => []
  | branch :: rest, name =>
      (if branch.isEmpty then [] else leftAfterAll branch name) ++ leftAfterAny rest name

end

/-- Whether a pattern takes a whole name. -/
def isMatch (pattern : List Token) (name : String) : Bool :=
  (leftAfterAll pattern (Text.Utf8.encode name)).any List.isEmpty

/-! Reading goes character by character. Open groups are kept innermost first,
each with the branches that are complete and the tokens before the group. -/

structure Group where
  before : List Token
  branches : List (List Token)
  deriving Repr

/-- A class that is being read. -/
structure Class where
  negated : Bool
  ranges : List (Char × Char)
  isStart : Bool
  inRange : Bool
  deriving Repr

structure Progress where
  tokens : List Token := []
  groups : List Group := []
  class? : Option Class := none
  escaped : Bool := false
  deriving Repr

/-- The bytes of a character as tokens, last first. -/
def literal (character : Char) : List Token :=
  (Text.Utf8.encodeChar character).reverse.map Token.byte

/-- The byte ranges of a class. Only the bytes next to the dash form a range. -/
def byteRanges : Char × Char → List (UInt8 × UInt8)
  | (first, last) =>
      let single (byte : UInt8) : UInt8 × UInt8 := (byte, byte)
      let low := Text.Utf8.encodeChar first
      if first = last then low.map single
      else
        match low.reverse, Text.Utf8.encodeChar last with
        | lowest :: others, highest :: more =>
            others.reverse.map single ++ (lowest, highest) :: more.map single
        | _, _ => []

def Class.token (open_ : Class) : Token :=
  let ranges := if open_.inRange then ('-', '-') :: open_.ranges else open_.ranges
  .oneOf open_.negated (ranges.reverse.flatMap byteRanges)

/-- Close a range with its last character. -/
def Class.closeRange (open_ : Class) (last : Char) : Except Fault Class :=
  match open_.ranges with
  | (first, _) :: others =>
      if last < first then .error (.invalidRange first last)
      else .ok { open_ with ranges := (first, last) :: others, isStart := false, inRange := false }
  | [] => .ok { open_ with ranges := [(last, last)], isStart := false, inRange := false }

def Class.addChar (open_ : Class) (character : Char) : Except Fault Class :=
  if open_.isStart && !open_.negated && (character = '!' || character = '^') &&
      open_.ranges.isEmpty then
    .ok { open_ with negated := true }
  else if open_.inRange then open_.closeRange character
  else if character = '-' && !open_.isStart then .ok { open_ with inRange := true }
  else
    .ok { open_ with ranges := (character, character) :: open_.ranges, isStart := false }

/-- Read one character outside classes. -/
def Progress.addPlain (progress : Progress) (character : Char) : Except Fault Progress :=
  if character = '\\' then .ok { progress with escaped := true }
  else if character = '?' then .ok { progress with tokens := .anyByte :: progress.tokens }
  else if character = '*' then .ok { progress with tokens := .anyBytes :: progress.tokens }
  else if character = '[' then .ok { progress with class? := some ⟨false, [], true, false⟩ }
  else if character = Json.openBrace then
    .ok { progress with tokens := [], groups := ⟨progress.tokens, []⟩ :: progress.groups }
  else if character = Json.closeBrace then
    match progress.groups with
    | [] => .error .unopenedGroup
    | group :: outer =>
        let branches := (progress.tokens.reverse :: group.branches).reverse
        .ok { progress with tokens := .either branches :: group.before, groups := outer }
  else if character = ',' then
    match progress.groups with
    | [] => .ok { progress with tokens := literal character ++ progress.tokens }
    | group :: outer =>
        let extended := { group with branches := progress.tokens.reverse :: group.branches }
        .ok { progress with tokens := [], groups := extended :: outer }
  else .ok { progress with tokens := literal character ++ progress.tokens }

/-- Read one character. -/
def Progress.add (progress : Progress) (character : Char) : Except Fault Progress :=
  if progress.escaped then
    .ok { progress with tokens := literal character ++ progress.tokens, escaped := false }
  else
    match progress.class? with
    | some open_ =>
        if character = ']' && !open_.isStart then
          .ok { progress with tokens := open_.token :: progress.tokens, class? := none }
        else do
          let extended ← open_.addChar character
          return { progress with class? := some extended }
    | none => progress.addPlain character

def Progress.finish (progress : Progress) : Except Fault (List Token) :=
  if progress.escaped then .error .danglingEscape
  else if progress.class?.isSome then .error .unclosedClass
  else if !progress.groups.isEmpty then .error .unclosedGroup
  else .ok progress.tokens.reverse

/-- The tokens of a pattern. -/
def parse (pattern : String) : Except Fault (List Token) := do
  (← pattern.toList.foldlM Progress.add {}).finish

/-- Write a text so that its special characters stand for themselves. -/
def escape (text : String) : String :=
  String.ofList <| text.toList.flatMap fun character =>
    if ['?', '*', '[', ']', Json.openBrace, Json.closeBrace].contains character then
      ['[', character, ']']
    else [character]

end TemplateCheck.Package.Glob
