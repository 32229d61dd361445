import TemplateCheck.Json.Parser
import TemplateCheck.Proofs.Ordered

/-! # Written values are read back

A value whose numbers are integers of 64 bits is written as text that reads as that
value. What is read of a value ends where the text of the value ends: at the end of
the input, or at the comma or bracket that follows.
-/

namespace TemplateCheck.Json

/-! ## Values -/

/-- Numbers are integers of 64 bits, and the members of objects stand in the order of
their keys. -/
inductive Whole : Json → Prop
  | null : Whole .null
  | bool (value : Bool) : Whole (.bool value)
  | int {number : Int} (least : leastInt ≤ number) (greatest : number ≤ greatestInt) :
      Whole (.int number)
  | str (text : String) : Whole (.str text)
  | arr {items : List Json} (each : ∀ item ∈ items, Whole item) : Whole (.arr items)
  | obj {members : List (String × Json)} (each : ∀ member ∈ members, Whole member.2)
      (increasing : members.Pairwise fun left right => compare left.1 right.1 = .lt) :
      Whole (.obj members)

theorem depth_le_itemsDepth {item : Json} {items : List Json} (member : item ∈ items) :
    item.depth ≤ itemsDepth items := by
  induction items with
  | nil => cases member
  | cons first rest induction =>
      rw [itemsDepth]
      rcases List.mem_cons.mp member with isFirst | isLater
      · rw [isFirst]
        exact Nat.le_max_left _ _
      · exact Nat.le_trans (induction isLater) (Nat.le_max_right _ _)

theorem depth_le_membersDepth {entry : String × Json} {members : List (String × Json)}
    (member : entry ∈ members) : entry.2.depth ≤ membersDepth members := by
  induction members with
  | nil => cases member
  | cons first rest induction =>
      rcases first with ⟨key, value⟩
      rw [membersDepth]
      rcases List.mem_cons.mp member with isFirst | isLater
      · rw [isFirst]
        exact Nat.le_max_left _ _
      · exact Nat.le_trans (induction isLater) (Nat.le_max_right _ _)

theorem ofMembers_of_increasing {members : List (String × Json)}
    (increasing : members.Pairwise fun left right => compare left.1 right.1 = .lt) :
    ofMembers members = .obj members := by
  have all := @Ordered.foldl_put_of_pairwise String Json compare _ [] members increasing
  rw [ofMembers, all, List.nil_append]

/-! ## What follows a value -/

/-- The end of the input, or a mark that may follow a value. -/
def Closed (rest : List Char) : Prop :=
  ∀ mark ∈ rest.head?, mark = ',' ∨ mark = ']' ∨ mark = closeBrace

theorem Closed.of_comma (rest : List Char) : Closed (',' :: rest) := by
  intro mark isMark
  exact Or.inl (Option.some.inj isMark).symm

theorem Closed.of_bracket (rest : List Char) : Closed (']' :: rest) := by
  intro mark isMark
  exact Or.inr (Or.inl (Option.some.inj isMark).symm)

theorem Closed.of_brace (rest : List Char) : Closed (closeBrace :: rest) := by
  intro mark isMark
  exact Or.inr (Or.inr (Option.some.inj isMark).symm)

/-- What no mark after a value satisfies does not hold of the first character. -/
theorem Closed.head_eq_false {rest : List Char} (closed : Closed rest) (test : Char → Bool)
    (comma : test ',' = false) (bracket : test ']' = false) (brace : test closeBrace = false) :
    ∀ mark ∈ rest.head?, test mark = false := by
  intro mark isMark
  rcases closed mark isMark with rfl | rfl | rfl
  · exact comma
  · exact bracket
  · exact brace

/-- A reader takes the text of a value off the front, and no more. -/
def Reads (reader : Reader Json) (json : Json) : Prop :=
  ∀ rest, Closed rest → reader (json.chars ++ rest) = some (json, rest)

theorem skipSpace_of_head {mark : Char} {rest : List Char} (isMark : isSpace mark = false) :
    skipSpace (mark :: rest) = mark :: rest := by
  simp [skipSpace, isMark]

/-! ## Strings -/

/-- A character in front of the rest of a string. -/
abbrev inFront (character : Char) : List Char × List Char → List Char × List Char :=
  fun (body, after) => (character :: body, after)

theorem stringBody_escape {letter escaped : Char} (isEscape : simpleEscape? letter = some escaped)
    (rest : List Char) :
    stringBody ('\\' :: letter :: rest) = (stringBody rest).map (inFront escaped) := by
  have notUnit : letter ≠ 'u' := by
    rintro rfl
    cases isEscape
  rw [stringBody.eq_def]
  simp [notUnit, isEscape]

theorem stringBody_unit {first second third fourth : Char} {unit : Nat}
    (isUnit : unit? first second third fourth = some unit) (small : unit < 0xD800)
    (rest : List Char) :
    stringBody ('\\' :: 'u' :: first :: second :: third :: fourth :: rest) =
      (stringBody rest).map (inFront (Char.ofNat unit)) := by
  have notLow : isLowSurrogate unit = false := by
    simp only [isLowSurrogate, Bool.and_eq_false_iff, decide_eq_false_iff_not]
    omega
  have notHigh : isHighSurrogate unit = false := by
    simp only [isHighSurrogate, Bool.and_eq_false_iff, decide_eq_false_iff_not]
    omega
  rw [stringBody.eq_def]
  simp [isUnit, notLow, notHigh]

theorem stringBody_plain {character : Char} (notQuote : character ≠ '"')
    (notSlash : character ≠ '\\') (notControl : ¬ character.toNat < 0x20) (rest : List Char) :
    stringBody (character :: rest) = (stringBody rest).map (inFront character) := by
  rw [stringBody.eq_def]
  simp [notQuote, notSlash, notControl]

theorem unit?_controlDigits {code : Nat} (control : code < 0x20) :
    unit? '0' '0' (Nat.digitChar (code / 16)) (Nat.digitChar (code % 16)) = some code := by
  have all : ∀ code < 0x20,
      unit? '0' '0' (Nat.digitChar (code / 16)) (Nat.digitChar (code % 16)) = some code := by
    decide
  exact all code control

theorem stringBody_escapeChar (character : Char) (rest : List Char) :
    stringBody (escapeChar character ++ rest) = (stringBody rest).map (inFront character) := by
  have isCode := Char.ofNat_toNat character
  fun_cases escapeChar character with
  | case1 isQuote =>
      rw [isQuote]
      exact stringBody_escape rfl rest
  | case2 _ isSlash =>
      rw [isSlash]
      exact stringBody_escape rfl rest
  | case3 _ _ isLineFeed =>
      rw [isLineFeed]
      exact stringBody_escape rfl rest
  | case4 _ _ _ isReturn =>
      rw [isReturn]
      exact stringBody_escape rfl rest
  | case5 _ _ _ _ isTab =>
      rw [isTab]
      exact stringBody_escape rfl rest
  | case6 _ _ _ _ _ isBackspace =>
      rw [isBackspace] at isCode
      rw [← isCode]
      exact stringBody_escape rfl rest
  | case7 _ _ _ _ _ _ isFormFeed =>
      rw [isFormFeed] at isCode
      rw [← isCode]
      exact stringBody_escape rfl rest
  | case8 _ _ _ _ _ _ _ isControl =>
      have isUnit := stringBody_unit (unit?_controlDigits isControl) (by omega) rest
      rw [isCode] at isUnit
      exact isUnit
  | case9 notQuote notSlash _ _ _ _ _ notControl =>
      exact stringBody_plain notQuote notSlash notControl rest

theorem stringBody_quoted (body rest : List Char) :
    stringBody (body.flatMap escapeChar ++ '"' :: rest) = some (body, rest) := by
  induction body with
  | nil =>
      rw [List.flatMap_nil, List.nil_append, stringBody.eq_def]
      rfl
  | cons character body induction =>
      rw [List.flatMap_cons, List.append_assoc, stringBody_escapeChar, induction]
      rfl

theorem stringText_append (text : String) (rest : List Char) :
    stringText text ++ rest = '"' :: (text.toList.flatMap escapeChar ++ '"' :: rest) := by
  rw [stringText, List.cons_append, List.cons_append, List.append_assoc, List.singleton_append]

/-! ## Numbers -/

theorem isDigit_of_mem_toDigits {number : Nat} {digit : Char}
    (member : digit ∈ Nat.toDigits 10 number) : isDigit digit = true := by
  have isDecimal := Nat.isDigit_of_mem_toDigits (by decide) (by decide) member
  simpa [Char.isDigit, isDigit, Char.le_def] using isDecimal

/-- Only zero begins with a zero. -/
theorem eq_zero_of_head {number : Nat}
    (isZero : (Nat.toDigits 10 number).head? = some '0') : number = 0 := by
  induction number using Nat.strongRecOn with
  | ind number induction =>
      by_cases small : number < 10
      · rw [Nat.toDigits_of_lt_base small, List.head?_cons] at isZero
        exact Nat.digitChar_eq_zero.mp (Option.some.inj isZero)
      · have nonempty : (Nat.toDigits 10 (number / 10)).head?.isSome = true := by
          simp [Nat.toDigits_ne_nil]
        rw [Nat.toDigits_of_base_le (by decide) (by omega), List.head?_append,
          Option.or_of_isSome nonempty] at isZero
        -- The first digit is also that of the number without its last digit.
        have less := induction (number / 10) (by omega) isZero
        omega

theorem le_ofDigitChars (digits : List Char) (start : Nat) :
    start ≤ Nat.ofDigitChars 10 digits start := by
  rw [Nat.ofDigitChars_eq_ofDigitChars_zero]
  have positive : 0 < 10 ^ digits.length := Nat.pow_pos (by decide)
  have scaled := Nat.le_mul_of_pos_left start positive
  omega

theorem ofDigitChars_cons (digit : Char) (rest : List Char) (start : Nat) :
    Nat.ofDigitChars 10 (digit :: rest) start =
      Nat.ofDigitChars 10 rest (start * 10 + digitValue digit) := by
  rw [Nat.ofDigitChars_cons, Nat.mul_comm]
  rfl

theorem absorb_of_le {digits : List Char} {start : Nat}
    (fits : Nat.ofDigitChars 10 digits start ≤ greatestSignificand) :
    absorb start digits = (Nat.ofDigitChars 10 digits start, digits.length) := by
  induction digits generalizing start with
  | nil => rfl
  | cons digit rest induction =>
      rw [ofDigitChars_cons] at fits ⊢
      have small := Nat.le_trans (le_ofDigitChars rest _) fits
      rw [absorb, if_neg (Nat.not_lt.mpr small), induction fits]
      rfl

theorem takeWhile_toDigits {number : Nat} {rest : List Char} (closed : Closed rest) :
    (Nat.toDigits 10 number ++ rest).takeWhile isDigit = Nat.toDigits 10 number := by
  have stops := closed.head_eq_false isDigit rfl rfl rfl
  rw [List.takeWhile_append_of_pos fun digit => isDigit_of_mem_toDigits]
  cases rest with
  | nil => simp
  | cons mark rest => simp [stops mark rfl]

theorem dropWhile_toDigits {number : Nat} {rest : List Char} (closed : Closed rest) :
    (Nat.toDigits 10 number ++ rest).dropWhile isDigit = rest := by
  have stops := closed.head_eq_false isDigit rfl rfl rfl
  rw [List.dropWhile_append_of_pos fun digit => isDigit_of_mem_toDigits]
  cases rest with
  | nil => rfl
  | cons mark rest => simp [stops mark rfl]

theorem fractionPart_of_closed {rest : List Char} (closed : Closed rest) :
    fractionPart rest = some (none, rest) := by
  cases rest with
  | nil => rfl
  | cons mark rest =>
      have noPoint := closed.head_eq_false (fun mark => mark == '.') rfl rfl rfl mark rfl
      rw [fractionPart, if_neg (by simpa using noPoint)]

theorem exponentPart_of_closed {rest : List Char} (closed : Closed rest) :
    exponentPart rest = some (none, rest) := by
  cases rest with
  | nil => rfl
  | cons mark rest =>
      have noMark := closed.head_eq_false (fun mark => mark = 'e' || mark = 'E')
        rfl rfl rfl mark rfl
      rw [exponentPart.eq_def]
      dsimp only at noMark ⊢
      rw [noMark]
      rfl

theorem numberBody_toDigits (negative : Bool) {number : Nat} {rest : List Char}
    (fits : number ≤ greatestSignificand) (closed : Closed rest) :
    numberBody negative (Nat.toDigits 10 number ++ rest) =
      some (wholeNumber negative number, rest) := by
  have value := @Nat.ofDigitChars_ten_toDigits number
  have absorbed : absorb 0 (Nat.toDigits 10 number) = (number, (Nat.toDigits 10 number).length) := by
    rw [absorb_of_le (by rw [value]; exact fits), value]
  have wellSpelled : ((Nat.toDigits 10 number).isEmpty ||
      ((Nat.toDigits 10 number).head? == some '0' && 1 < (Nat.toDigits 10 number).length)) =
        false := by
    by_cases isZero : (Nat.toDigits 10 number).head? = some '0'
    · rw [eq_zero_of_head isZero]
      rfl
    · simp [isZero, Nat.toDigits_ne_nil]
  simp only [numberBody, takeWhile_toDigits closed, dropWhile_toDigits closed, absorbed,
    wellSpelled, fractionPart_of_closed closed]
  simp [exponentPart_of_closed closed]

theorem number_intText {number : Int} (least : leastInt ≤ number) (greatest : number ≤ greatestInt)
    {rest : List Char} (closed : Closed rest) :
    Json.number (intText number ++ rest) = some (.int number, rest) := by
  unfold leastInt at least
  unfold greatestInt at greatest
  unfold intText
  split
  · next negative =>
      have fits : number.natAbs ≤ greatestSignificand := by
        unfold greatestSignificand
        omega
      have small : number.natAbs ≤ 0x8000000000000000 := by omega
      have positive : 0 < number.natAbs := by omega
      rw [List.cons_append, Json.number, if_pos rfl, numberBody_toDigits true fits closed]
      simp only [wholeNumber, positive, small, decide_true, Bool.and_self, if_true]
      rw [show -(number.natAbs : Int) = number by omega]
  · next notNegative =>
      have fits : number.natAbs ≤ greatestSignificand := by
        unfold greatestSignificand
        omega
      have body := numberBody_toDigits false fits closed
      cases digits : Nat.toDigits 10 number.natAbs with
      | nil => exact absurd digits Nat.toDigits_ne_nil
      | cons first others =>
          have isFirst : isDigit first = true :=
            isDigit_of_mem_toDigits (digits ▸ List.mem_cons_self)
          have noSign : first ≠ '-' := by
            rintro rfl
            cases isFirst
          rw [digits] at body
          rw [List.cons_append] at body ⊢
          rw [Json.number, if_neg noSign, body]
          simp only [wholeNumber, Bool.false_eq_true, if_false]
          rw [show (number.natAbs : Int) = number by omega]

/-- The first character of a number. -/
def isNumberMark (mark : Char) : Bool :=
  mark = '-' || isDigit mark

theorem intText_eq_cons (number : Int) :
    ∃ mark tail, intText number = mark :: tail ∧ isNumberMark mark = true := by
  unfold intText
  split
  · exact ⟨'-', _, rfl, rfl⟩
  · cases digits : Nat.toDigits 10 number.natAbs with
    | nil => exact absurd digits Nat.toDigits_ne_nil
    | cons first others =>
        have isFirst : isDigit first = true :=
          isDigit_of_mem_toDigits (digits ▸ List.mem_cons_self)
        exact ⟨first, others, rfl, by simp [isNumberMark, isFirst]⟩

theorem ne_of_isNumberMark {mark other : Char} (isMark : isNumberMark mark = true)
    (isOther : isNumberMark other = false) : mark ≠ other := by
  rintro rfl
  rw [isMark] at isOther
  cases isOther

theorem isSpace_of_isNumberMark {mark : Char} (isMark : isNumberMark mark = true) :
    isSpace mark = false := by
  have notSpace : mark ≠ ' ' := ne_of_isNumberMark isMark rfl
  have notFeed : mark ≠ '\n' := ne_of_isNumberMark isMark rfl
  have notTab : mark ≠ '\t' := ne_of_isNumberMark isMark rfl
  have notReturn : mark ≠ '\r' := ne_of_isNumberMark isMark rfl
  simp [isSpace, notSpace, notFeed, notTab, notReturn]

theorem valueWith_number {mark : Char} (isMark : isNumberMark mark = true)
    (nested : Option (Reader Json)) (rest : List Char) :
    valueWith nested (mark :: rest) = Json.number (mark :: rest) := by
  have apart : ∀ other, isNumberMark other = false → mark ≠ other :=
    fun _ => ne_of_isNumberMark isMark
  unfold valueWith
  rw [skipSpace_of_head (isSpace_of_isNumberMark isMark)]
  dsimp only
  rw [if_neg (apart 'n' rfl), if_neg (apart 't' rfl), if_neg (apart 'f' rfl),
    if_neg (apart '"' rfl), if_neg (apart '[' rfl), if_neg (apart openBrace rfl)]

/-! ## Items -/

theorem length_le_moreItemChars (list : List Json) :
    list.length ≤ (moreItemChars list).length := by
  induction list with
  | nil => exact Nat.zero_le _
  | cons first rest induction =>
      simp only [moreItemChars, List.length_cons, List.length_append]
      omega

theorem Closed.moreItems (list : List Json) (after : List Char) :
    Closed (moreItemChars list ++ ']' :: after) := by
  cases list with
  | nil => exact .of_bracket after
  | cons first rest => exact .of_comma _

theorem moreItems_chars {item : Reader Json} {list : List Json}
    (reads : ∀ json ∈ list, Reads item json) {bound : Nat} (enough : list.length < bound)
    (after : List Char) :
    moreItems item bound (moreItemChars list ++ ']' :: after) = some (list, after) := by
  induction list generalizing bound with
  | nil =>
      cases bound with
      | zero => cases enough
      | succ bound => rfl
  | cons first rest induction =>
      cases bound with
      | zero => cases enough
      | succ bound =>
          have readsFirst := reads first List.mem_cons_self _ (Closed.moreItems rest after)
          have readsRest := induction (fun json member => reads json (List.mem_cons_of_mem _ member))
            (Nat.lt_of_succ_lt_succ enough)
          rw [moreItemChars, List.cons_append, List.cons_append, List.append_assoc,
            Json.moreItems, skipSpace_of_head rfl]
          simp [readsFirst, readsRest]

/-- The first character of a value is neither white space nor the end of a list. -/
theorem Whole.chars_eq_cons {json : Json} (whole : Whole json) :
    ∃ mark tail, json.chars = mark :: tail ∧ isSpace mark = false ∧ mark ≠ ']' := by
  cases whole with
  | null => exact ⟨'n', _, rfl, rfl, by decide⟩
  | bool value =>
      cases value with
      | true => exact ⟨'t', _, rfl, rfl, by decide⟩
      | false => exact ⟨'f', _, rfl, rfl, by decide⟩
  | int least greatest =>
      rcases intText_eq_cons _ with ⟨mark, tail, isText, isMark⟩
      exact ⟨mark, tail, isText, isSpace_of_isNumberMark isMark, ne_of_isNumberMark isMark rfl⟩
  | str text => exact ⟨'"', _, rfl, rfl, by decide⟩
  | arr each => exact ⟨'[', _, by rw [chars]; rfl, rfl, by decide⟩
  | obj each increasing => exact ⟨openBrace, _, by rw [chars]; rfl, rfl, by decide⟩

theorem items_chars {item : Reader Json} {list : List Json}
    (each : ∀ json ∈ list, Whole json) (reads : ∀ json ∈ list, Reads item json)
    (after : List Char) :
    items item (itemChars list ++ ']' :: after) = some (list, after) := by
  cases list with
  | nil => rfl
  | cons first rest =>
      have readsFirst := reads first List.mem_cons_self _ (Closed.moreItems rest after)
      have enough : rest.length < (moreItemChars rest ++ ']' :: after).length + 1 := by
        have most := length_le_moreItemChars rest
        rw [List.length_append]
        omega
      have readsRest := moreItems_chars
        (fun json member => reads json (List.mem_cons_of_mem _ member)) enough after
      rcases (each first List.mem_cons_self).chars_eq_cons with
        ⟨mark, tail, isText, notSpace, notEnd⟩
      rw [isText] at readsFirst
      rw [itemChars, List.append_assoc, isText, List.cons_append, items,
        skipSpace_of_head notSpace]
      dsimp only
      rw [if_neg notEnd, ← List.cons_append, readsFirst]
      simp only [Option.bind_eq_bind, Option.bind_some, readsRest, pure]

/-! ## Members -/

theorem length_le_moreMemberChars (list : List (String × Json)) :
    list.length ≤ (moreMemberChars list).length := by
  induction list with
  | nil => exact Nat.zero_le _
  | cons first rest induction =>
      simp only [moreMemberChars, List.length_cons, List.length_append]
      omega

theorem Closed.moreMembers (list : List (String × Json)) (after : List Char) :
    Closed (moreMemberChars list ++ closeBrace :: after) := by
  cases list with
  | nil => exact .of_brace after
  | cons first rest => exact .of_comma _

theorem member_chars {item : Reader Json} (key : String) {json : Json} (reads : Reads item json)
    {rest : List Char} (closed : Closed rest) :
    member item (stringText key ++ ':' :: (json.chars ++ rest)) = some ((key, json), rest) := by
  have body := stringBody_quoted key.toList (':' :: (json.chars ++ rest))
  rw [stringText_append, member, skipSpace_of_head rfl]
  simp only [if_true, body, Option.bind_eq_bind, Option.bind_some]
  rw [skipSpace_of_head rfl]
  simp [reads rest closed]

theorem moreMembers_chars {item : Reader Json} {list : List (String × Json)}
    (reads : ∀ entry ∈ list, Reads item entry.2) {bound : Nat} (enough : list.length < bound)
    (after : List Char) :
    moreMembers item bound (moreMemberChars list ++ closeBrace :: after) = some (list, after) := by
  induction list generalizing bound with
  | nil =>
      cases bound with
      | zero => cases enough
      | succ bound => rfl
  | cons first rest induction =>
      rcases first with ⟨key, json⟩
      cases bound with
      | zero => cases enough
      | succ bound =>
          have readsFirst := member_chars key (reads (key, json) List.mem_cons_self)
            (Closed.moreMembers rest after)
          have readsRest := induction
            (fun entry member => reads entry (List.mem_cons_of_mem _ member))
            (Nat.lt_of_succ_lt_succ enough)
          have notEnd : ',' ≠ closeBrace := by decide
          rw [moreMemberChars]
          simp only [List.cons_append, List.append_assoc]
          rw [Json.moreMembers, skipSpace_of_head rfl]
          simp [notEnd, readsFirst, readsRest]

theorem members_chars {item : Reader Json} {list : List (String × Json)}
    (reads : ∀ entry ∈ list, Reads item entry.2) (after : List Char) :
    members item (memberChars list ++ closeBrace :: after) = some (list, after) := by
  cases list with
  | nil => rfl
  | cons first rest =>
      rcases first with ⟨key, json⟩
      have readsFirst := member_chars key (reads (key, json) List.mem_cons_self)
        (Closed.moreMembers rest after)
      have enough : rest.length < (moreMemberChars rest ++ closeBrace :: after).length + 1 := by
        have most := length_le_moreMemberChars rest
        rw [List.length_append]
        omega
      have readsRest := moreMembers_chars
        (fun entry member => reads entry (List.mem_cons_of_mem _ member)) enough after
      have notEnd : '"' ≠ closeBrace := by decide
      rw [memberChars]
      simp only [List.cons_append, List.append_assoc]
      rw [stringText_append] at readsFirst ⊢
      rw [members, skipSpace_of_head rfl]
      dsimp only at readsFirst ⊢
      rw [if_neg notEnd, readsFirst]
      simp only [Option.bind_eq_bind, Option.bind_some, readsRest, pure]

/-! ## Reading values -/

theorem value_eq_valueWith (levels : Nat) : ∃ nested, value levels = valueWith nested := by
  cases levels with
  | zero => exact ⟨none, rfl⟩
  | succ levels => exact ⟨some (value levels), rfl⟩

theorem Whole.reads {json : Json} (whole : Whole json) :
    ∀ levels, json.depth ≤ levels → Reads (value levels) json := by
  induction whole with
  | null =>
      intro levels _ rest _
      rcases value_eq_valueWith levels with ⟨nested, isReader⟩
      rw [isReader]
      rfl
  | bool value =>
      intro levels _ rest _
      rcases value_eq_valueWith levels with ⟨nested, isReader⟩
      rw [isReader]
      cases value with
      | true => rfl
      | false => rfl
  | int least greatest =>
      intro levels _ rest closed
      rcases value_eq_valueWith levels with ⟨nested, isReader⟩
      have reads := number_intText least greatest closed
      rcases intText_eq_cons _ with ⟨mark, tail, isText, isMark⟩
      rw [isReader, chars]
      rw [isText, List.cons_append] at reads ⊢
      rw [valueWith_number isMark, reads]
  | str text =>
      intro levels _ rest _
      rcases value_eq_valueWith levels with ⟨nested, isReader⟩
      have body := stringBody_quoted text.toList rest
      rw [isReader, chars, stringText_append, valueWith, skipSpace_of_head rfl]
      simp [body]
  | @arr list each induction =>
      intro levels enough rest _
      cases levels with
      | zero => cases enough
      | succ levels =>
          have reads : ∀ json ∈ list, Reads (value levels) json := by
            intro json member
            have shallow := depth_le_itemsDepth member
            rw [depth] at enough
            exact induction json member levels (by omega)
          have readItems := items_chars each reads rest
          rw [chars, List.cons_append, List.cons_append, List.append_assoc, List.singleton_append,
            value, valueWith, skipSpace_of_head rfl]
          simp [readItems]
  | @obj list each increasing induction =>
      intro levels enough rest _
      cases levels with
      | zero => cases enough
      | succ levels =>
          have reads : ∀ entry ∈ list, Reads (value levels) entry.2 := by
            intro entry member
            have shallow := depth_le_membersDepth member
            rw [depth] at enough
            exact induction entry member levels (by omega)
          have readMembers := members_chars reads rest
          have sorted := ofMembers_of_increasing increasing
          rw [chars, List.cons_append, List.cons_append, List.append_assoc, List.singleton_append,
            value, valueWith, skipSpace_of_head rfl]
          simp [readMembers, sorted, openBrace]

/-- A written value is read back. -/
theorem parseChars_chars {json : Json} (whole : Whole json) (shallow : json.depth ≤ greatestDepth) :
    parseChars json.chars = some json := by
  have reads := whole.reads greatestDepth shallow [] (by simp [Closed])
  rw [List.append_nil] at reads
  rw [parseChars, reads]
  rfl

end TemplateCheck.Json
