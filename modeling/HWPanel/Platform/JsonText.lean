import HWPanel.Platform.Json
import Mathlib.Data.List.DropRight

/-!
# The JSON text of the documents of the store

A codec for documents made of strings and objects: `dump(2)` as the JSON library
prints them, a parser for them, the round trip, and that a text cut off on the way is
rejected. The store writes no other values; on a text that holds one the parser fails.
-/

namespace HWPanel.Platform

open HWPanel.Library

namespace JsonText

def isBlank (c : Char) : Bool := c == ' ' || c == '\n' || c == '\r' || c == '\t'

def skipBlanks (text : List Char) : List Char := text.dropWhile isBlank

def hexDigit (digit : Nat) : Char := "0123456789abcdef".toList.getD digit '0'

def hexValue (c : Char) : Option Nat := "0123456789abcdef".toList.findIdx? (· == c.toLower)

/-- The character of a four-digit escape outside the surrogates. -/
def hexChar (a b c d : Char) : Option Char := do
  let code := ((← hexValue a) * 16 + (← hexValue b)) * 256 + (← hexValue c) * 16 + (← hexValue d)
  if code.isValidChar then some (Char.ofNat code) else none

def escapeChar (c : Char) : List Char :=
  if c = '\"' then ['\\', '\"']
  else if c = '\\' then ['\\', '\\']
  else if c = '\x08' then ['\\', 'b']
  else if c = '\x0c' then ['\\', 'f']
  else if c = '\n' then ['\\', 'n']
  else if c = '\r' then ['\\', 'r']
  else if c = '\t' then ['\\', 't']
  else if c.toNat < 32 then
    ['\\', 'u', '0', '0', hexDigit (c.toNat / 16), hexDigit (c.toNat % 16)]
  else [c]

def unescape : Char → Option Char
  | '\"' => some '\"'
  | '\\' => some '\\'
  | '/' => some '/'
  | 'b' => some '\x08'
  | 'f' => some '\x0c'
  | 'n' => some '\n'
  | 'r' => some '\r'
  | 't' => some '\t'
  | _ => none

/-- The rest of a string, after its opening quote, and what follows it. -/
def parseString : List Char → Option (List Char × List Char)
  | '\"' :: rest => some ([], rest)
  | '\\' :: 'u' :: a :: b :: c :: d :: rest => do
      let char ← hexChar a b c d
      let (text, rest) ← parseString rest
      return (char :: text, rest)
  | '\\' :: c :: rest => do
      let char ← unescape c
      let (text, rest) ← parseString rest
      return (char :: text, rest)
  | c :: rest =>
      if c.toNat < 32 then none
      else do
        let (text, rest) ← parseString rest
        return (c :: text, rest)
  | [] => none

def renderString (text : String) : List Char :=
  '\"' :: (text.toList.flatMap escapeChar ++ ['\"'])

mutual

/-- `dump(2)` of a value nested this deep. -/
def render (depth : Nat) : Json → List Char
  | .string text => renderString text
  | .object fields =>
      match fields with
      | [] => ['{', '}']
      | field :: rest => '{' :: '\n' :: renderFields depth (field :: rest)
  | _ => "null".toList

def renderFields (depth : Nat) : List (String × Json) → List Char
  | [] => List.replicate (2 * depth) ' ' ++ ['}']
  | (key, value) :: rest =>
      List.replicate (2 * (depth + 1)) ' ' ++ renderString key ++ ':' :: ' ' ::
        render (depth + 1) value ++
          (match rest with
          | [] => '\n' :: renderFields depth []
          | field :: rest => ',' :: '\n' :: renderFields depth (field :: rest))

end

/-- The fields in key order, the last value of a repeated key. -/
def sortFields (fields : List (String × Json)) : List (String × Json) :=
  (fields.foldl (fun map field => map.insert field.1 field.2)
    (SortedMap.empty : SortedMap String Json)).entries

mutual

def parseValue : Nat → List Char → Option (Json × List Char)
  | 0, _ => none
  | fuel + 1, text =>
      match skipBlanks text with
      | '\"' :: rest => do
          let (content, rest) ← parseString rest
          return (.string (String.ofList content), rest)
      | '{' :: rest =>
          match skipBlanks rest with
          | '}' :: rest => some (.object [], rest)
          | rest => do
              let (fields, rest) ← parseFields fuel rest
              return (.object (sortFields fields), rest)
      | _ => none

def parseFields : Nat → List Char → Option (List (String × Json) × List Char)
  | 0, _ => none
  | fuel + 1, text =>
      match skipBlanks text with
      | '\"' :: rest => do
          let (key, rest) ← parseString rest
          match skipBlanks rest with
          | ':' :: rest => do
              let (value, rest) ← parseValue fuel rest
              match skipBlanks rest with
              | ',' :: rest => do
                  let (fields, rest) ← parseFields fuel rest
                  return ((String.ofList key, value) :: fields, rest)
              | '}' :: rest => some ([(String.ofList key, value)], rest)
              | _ => none
          | _ => none
      | _ => none

end

/-! ## Round trip -/

theorem hexChar_digits : ∀ code < 32,
    hexChar '0' '0' (hexDigit (code / 16)) (hexDigit (code % 16)) = some (Char.ofNat code) := by
  decide

theorem parseString_unescape {escape c : Char} (unescaped : unescape escape = some c)
    (rest : List Char) : parseString ('\\' :: escape :: rest) =
      (parseString rest).map fun parsed => (c :: parsed.1, parsed.2) := by
  have notHex : escape ≠ 'u' := by
    rintro rfl
    cases unescaped
  rw [parseString]
  · rw [unescaped]
    cases parseString rest with
    | none => rfl
    | some parsed => rfl
  · intro a b c d more isHex
    exact absurd isHex notHex

theorem parseString_cons {c : Char} (notQuote : c ≠ '\"') (notBackslash : c ≠ '\\')
    (notControl : ¬c.toNat < 32) (rest : List Char) :
    parseString (c :: rest) =
      (parseString rest).map fun parsed => (c :: parsed.1, parsed.2) := by
  rw [parseString.eq_def]
  cases parsed : parseString rest <;> simp [notBackslash, notControl, parsed]

@[simp] theorem parseString_escapeChar (c : Char) (rest : List Char) :
    parseString (escapeChar c ++ rest) =
      (parseString rest).map fun parsed => (c :: parsed.1, parsed.2) := by
  rw [escapeChar]
  split
  · subst c
    exact parseString_unescape rfl rest
  split
  · subst c
    exact parseString_unescape rfl rest
  split
  · subst c
    exact parseString_unescape rfl rest
  split
  · subst c
    exact parseString_unescape rfl rest
  split
  · subst c
    exact parseString_unescape rfl rest
  split
  · subst c
    exact parseString_unescape rfl rest
  split
  · subst c
    exact parseString_unescape rfl rest
  split
  · rename_i control
    have code := hexChar_digits c.toNat control
    rw [Char.ofNat_toNat] at code
    cases parsed : parseString rest <;> simp [parseString, code, parsed]
  · rename_i notQuote notBackslash _ _ _ _ _ notControl
    exact parseString_cons notQuote notBackslash notControl rest

@[simp] theorem parseString_flatMap (text rest : List Char) :
    parseString (text.flatMap escapeChar ++ '\"' :: rest) = some (text, rest) := by
  induction text with
  | nil => rfl
  | cons c text ih =>
      rw [List.flatMap_cons, List.append_assoc, parseString_escapeChar, ih]
      rfl

@[simp] theorem skipBlanks_indent (n : Nat) (text : List Char) :
    skipBlanks (List.replicate n ' ' ++ text) = skipBlanks text := by
  induction n with
  | zero => rfl
  | succ n ih => exact ih

@[simp] theorem skipBlanks_skipBlanks (text : List Char) :
    skipBlanks (skipBlanks text) = skipBlanks text :=
  List.dropWhile_idempotent isBlank text

@[simp] theorem parseValue_skipBlanks (fuel : Nat) (text : List Char) :
    parseValue fuel (skipBlanks text) = parseValue fuel text := by
  cases fuel with
  | zero => rfl
  | succ fuel => rw [parseValue, parseValue, skipBlanks_skipBlanks]

@[simp] theorem parseFields_skipBlanks (fuel : Nat) (text : List Char) :
    parseFields fuel (skipBlanks text) = parseFields fuel text := by
  cases fuel with
  | zero => rfl
  | succ fuel => rw [parseFields, parseFields, skipBlanks_skipBlanks]

@[simp] theorem parseFields_newline (fuel : Nat) (text : List Char) :
    parseFields fuel ('\n' :: text) = parseFields fuel text := by
  cases fuel with
  | zero => rfl
  | succ fuel => rfl

@[simp] theorem parseValue_blank (fuel : Nat) (text : List Char) :
    parseValue fuel (' ' :: text) = parseValue fuel text := by
  cases fuel with
  | zero => rfl
  | succ fuel => rfl

/-- With enough fuel, the value is read back, and the text after it is left. -/
def ReadBack (doc : Json) : Prop :=
  ∀ depth fuel rest, (render depth doc).length ≤ fuel →
    parseValue fuel (render depth doc ++ rest) = some (doc, rest)

theorem renderFields_cons (depth : Nat) (key : String) (value : Json)
    (fields : List (String × Json)) : ∃ separator : List Char,
      renderFields depth ((key, value) :: fields) = List.replicate (2 * (depth + 1)) ' ' ++
        '\"' :: (key.toList.flatMap escapeChar ++
          '\"' :: ':' :: ' ' :: (render (depth + 1) value ++ separator)) ∧
      separator = match fields with
        | [] => '\n' :: renderFields depth []
        | field :: rest => ',' :: '\n' :: renderFields depth (field :: rest) := by
  cases fields with
  | nil =>
      refine ⟨'\n' :: renderFields depth [], ?_, rfl⟩
      simp only [renderFields, renderString, List.append_assoc, List.cons_append, List.nil_append]
  | cons field rest =>
      refine ⟨',' :: '\n' :: renderFields depth (field :: rest), ?_, rfl⟩
      conv_lhs => rw [renderFields]
      simp only [renderString, List.append_assoc, List.cons_append, List.nil_append]

theorem readBack_fields {fields : List (String × Json)} (nonempty : fields ≠ [])
    (values : ∀ field ∈ fields, ReadBack field.2) (depth fuel : Nat) (rest : List Char)
    (enough : (renderFields depth fields).length ≤ fuel) :
    parseFields fuel (renderFields depth fields ++ rest) = some (fields, rest) := by
  induction fields generalizing fuel with
  | nil => exact absurd rfl nonempty
  | cons field tail ih =>
      rcases field with ⟨key, value⟩
      rcases renderFields_cons depth key value tail with ⟨separator, rendered, separatorEq⟩
      rw [rendered] at enough ⊢
      simp only [List.length_append, List.length_cons] at enough
      cases fuel with
      | zero => omega
      | succ fuel =>
          have valueFits : (render (depth + 1) value).length ≤ fuel := by
            omega
          have valueRead : parseValue fuel (render (depth + 1) value ++ (separator ++ rest)) =
              some (value, separator ++ rest) :=
            values (key, value) List.mem_cons_self _ _ _ valueFits
          have opened : skipBlanks ((List.replicate (2 * (depth + 1)) ' ' ++
              '\"' :: (key.toList.flatMap escapeChar ++
                '\"' :: ':' :: ' ' :: (render (depth + 1) value ++ separator))) ++ rest) =
              '\"' :: (key.toList.flatMap escapeChar ++
                '\"' :: ':' :: ' ' :: (render (depth + 1) value ++ (separator ++ rest))) := by
            rw [List.append_assoc, skipBlanks_indent]
            simp only [List.append_assoc, List.cons_append]
            rfl
          have colon : ∀ text, skipBlanks (':' :: text) = ':' :: text := fun _ => rfl
          simp only [parseFields, opened, parseString_flatMap, Option.bind_eq_bind,
            Option.bind_some, colon, parseValue_blank, valueRead, String.ofList_toList]
          cases tail with
          | nil =>
              have closed : skipBlanks (separator ++ rest) = '}' :: rest := by
                rw [separatorEq, renderFields, List.cons_append, List.append_assoc]
                exact skipBlanks_indent (2 * depth) ('}' :: rest)
              simp only [closed]
          | cons next later =>
              have comma : skipBlanks (separator ++ rest) =
                  ',' :: '\n' :: (renderFields depth (next :: later) ++ rest) := by
                rw [separatorEq]
                rfl
              have restRead : parseFields fuel (renderFields depth (next :: later) ++ rest) =
                  some (next :: later, rest) := by
                apply ih (List.cons_ne_nil _ _)
                · exact fun field membership => values field (List.mem_cons_of_mem _ membership)
                · rw [separatorEq] at enough
                  simp only [List.length_cons] at enough
                  omega
              simp only [comma, parseFields_newline, restRead]
              rfl

theorem sortFields_sorted {fields : List (String × Json)}
    (sorted : fields.Pairwise fun earlier later => earlier.1 < later.1) :
    sortFields fields = fields :=
  congrArg SortedMap.entries (SortedMap.foldl_insert ⟨fields, sorted⟩)

theorem parseValue_object {fuel : Nat} {text inner rest : List Char}
    {fields : List (String × Json)} (opened : skipBlanks text = '\"' :: inner)
    (read : parseFields fuel text = some (fields, rest)) :
    parseValue (fuel + 1) ('{' :: text) = some (.object (sortFields fields), rest) := by
  have brace : skipBlanks ('{' :: text) = '{' :: text := rfl
  rw [← parseFields_skipBlanks, opened] at read
  simp only [parseValue, brace, opened]
  change (parseFields fuel ('\"' :: inner)).bind _ = _
  rw [read]
  rfl

theorem readBack {doc : Json} (textual : doc.Textual) : ReadBack doc := by
  induction textual with
  | string text =>
      intro depth fuel rest enough
      rw [render, renderString] at enough ⊢
      cases fuel with
      | zero => cases enough
      | succ fuel =>
          have opened : skipBlanks ('\"' :: (text.toList.flatMap escapeChar ++ ['\"']) ++ rest) =
              '\"' :: (text.toList.flatMap escapeChar ++ '\"' :: rest) := by
            simp only [List.append_assoc, List.cons_append, List.nil_append]
            rfl
          simp only [parseValue, opened, parseString_flatMap, Option.bind_eq_bind,
            Option.bind_some, String.ofList_toList]
          rfl
  | object fields sorted values ih =>
      intro depth fuel rest enough
      cases fields with
      | nil =>
          cases fuel with
          | zero => cases enough
          | succ fuel => rfl
      | cons field tail =>
          rw [render] at enough ⊢
          cases fuel with
          | zero => cases enough
          | succ fuel =>
              simp only [List.length_cons] at enough
              have fieldsRead := readBack_fields (List.cons_ne_nil field tail) ih depth fuel rest
                (by omega)
              rcases field with ⟨key, value⟩
              rcases renderFields_cons depth key value tail with ⟨separator, rendered, -⟩
              have opened : skipBlanks ('\n' :: renderFields depth ((key, value) :: tail) ++ rest) =
                  '\"' :: (key.toList.flatMap escapeChar ++ '\"' :: ':' :: ' ' ::
                    (render (depth + 1) value ++ separator) ++ rest) := by
                rw [rendered, List.cons_append, List.append_assoc]
                exact skipBlanks_indent _ _
              have read := parseValue_object opened ((parseFields_newline fuel _).trans fieldsRead)
              rw [sortFields_sorted sorted] at read
              exact read

theorem skipBlanks_append {text rest : List Char} {c : Char}
    (skipped : skipBlanks text = c :: rest) (more : List Char) :
    skipBlanks (text ++ more) = c :: (rest ++ more) := by
  rw [skipBlanks] at skipped ⊢
  rw [List.dropWhile_append, skipped]
  rfl

/-- A string that was read to its closing quote is read from any longer text. -/
theorem parseString_append {text content rest : List Char}
    (parsed : parseString text = some (content, rest)) (more : List Char) :
    parseString (text ++ more) = some (content, rest ++ more) := by
  induction text using parseString.induct generalizing content rest with
  | case1 text =>
      cases parsed
      rfl
  | case2 a b c d text ih =>
      simp only [parseString, Option.bind_eq_bind, Option.bind_eq_some_iff] at parsed
      obtain ⟨char, hex, ⟨inner, after⟩, innerParsed, same⟩ := parsed
      cases same
      simp only [List.cons_append, parseString, hex, ih innerParsed]
      rfl
  | case3 c text notHex ih =>
      rw [parseString] at parsed
      · simp only [Option.bind_eq_bind, Option.bind_eq_some_iff] at parsed
        obtain ⟨char, unescaped, ⟨inner, after⟩, innerParsed, same⟩ := parsed
        cases same
        rw [List.cons_append, List.cons_append, parseString_unescape unescaped, ih innerParsed]
        rfl
      · exact notHex
  | case4 c text notQuote notHex notEscape control =>
      rw [parseString.eq_def] at parsed
      simp [control] at parsed
  | case5 c text notQuote notHex notEscape notControl ih =>
      cases text with
      | nil =>
          -- A backslash may be the last character here; nothing closes the string.
          rw [parseString.eq_def] at parsed
          simp [notControl, parseString] at parsed
      | cons next text =>
          have notBackslash : c ≠ '\\' := fun isBackslash => notEscape next text isBackslash rfl
          rw [parseString_cons notQuote notBackslash notControl, Option.map_eq_some_iff] at parsed
          obtain ⟨⟨inner, after⟩, innerParsed, same⟩ := parsed
          cases same
          rw [List.cons_append, parseString_cons notQuote notBackslash notControl, ih innerParsed]
          rfl
  | case6 => cases parsed

/-- What a parser reads with this much fuel, it reads with more fuel from a longer text. -/
def Extends {β : Type} (parser : Nat → List Char → Option (β × List Char)) (fuel : Nat) : Prop :=
  ∀ text value rest, parser fuel text = some (value, rest) →
    ∀ enough, fuel ≤ enough → ∀ more, parser enough (text ++ more) = some (value, rest ++ more)

theorem extends_zero {β : Type} {parser : Nat → List Char → Option (β × List Char)}
    (stuck : ∀ text, parser 0 text = none) : Extends parser 0 := by
  intro text value rest parsed
  rw [stuck] at parsed
  cases parsed

theorem parseFields_opens {fuel : Nat} {text : List Char}
    {result : List (String × Json) × List Char} (parsed : parseFields fuel text = some result) :
    ∃ inner, skipBlanks text = '\"' :: inner := by
  cases fuel with
  | zero => cases parsed
  | succ fuel =>
      rw [parseFields] at parsed
      split at parsed
      next inner opened => exact ⟨inner, opened⟩
      next => cases parsed

theorem extends_parseValue {fuel : Nat} (fieldsExtend : Extends parseFields fuel) :
    Extends parseValue (fuel + 1) := by
  intro text doc rest parsed enough le more
  obtain ⟨enough, rfl⟩ := Nat.exists_eq_add_of_le' (Nat.le_trans (Nat.le_add_left 1 fuel) le)
  have lePred := Nat.le_of_succ_le_succ le
  rw [parseValue] at parsed
  split at parsed
  next inner opened =>
    simp only [Option.bind_eq_bind, Option.bind_eq_some_iff] at parsed
    obtain ⟨⟨content, after⟩, contentParsed, same⟩ := parsed
    cases same
    simp only [parseValue, skipBlanks_append opened, parseString_append contentParsed]
    rfl
  next inner opened =>
    split at parsed
    next after closed =>
      cases parsed
      simp only [parseValue, skipBlanks_append opened, skipBlanks_append closed]
    next notClosed =>
      simp only [Option.bind_eq_bind, Option.bind_eq_some_iff] at parsed
      obtain ⟨⟨fields, after⟩, fieldsParsed, same⟩ := parsed
      cases same
      rw [parseFields_skipBlanks] at fieldsParsed
      obtain ⟨first, quoted⟩ := parseFields_opens fieldsParsed
      have longer := fieldsExtend _ _ _ fieldsParsed enough lePred more
      rw [← parseValue_skipBlanks, skipBlanks_append opened]
      exact parseValue_object (skipBlanks_append quoted more) longer
  next => cases parsed

theorem extends_parseFields {fuel : Nat} (valueExtends : Extends parseValue fuel)
    (fieldsExtend : Extends parseFields fuel) : Extends parseFields (fuel + 1) := by
  intro text fields rest parsed enough le more
  obtain ⟨enough, rfl⟩ := Nat.exists_eq_add_of_le' (Nat.le_trans (Nat.le_add_left 1 fuel) le)
  have lePred := Nat.le_of_succ_le_succ le
  rw [parseFields] at parsed
  split at parsed
  next inner opened =>
    simp only [Option.bind_eq_bind, Option.bind_eq_some_iff] at parsed
    obtain ⟨⟨key, afterKey⟩, keyParsed, parsed⟩ := parsed
    split at parsed
    next colonRest colon =>
      obtain ⟨⟨value, afterValue⟩, valueParsed, parsed⟩ := Option.bind_eq_some_iff.mp parsed
      have longerValue := valueExtends _ _ _ valueParsed enough lePred more
      split at parsed
      next commaRest comma =>
        obtain ⟨⟨others, afterOthers⟩, othersParsed, same⟩ := Option.bind_eq_some_iff.mp parsed
        cases same
        have longerOthers := fieldsExtend _ _ _ othersParsed enough lePred more
        simp only [parseFields, skipBlanks_append opened, parseString_append keyParsed,
          skipBlanks_append colon, longerValue, skipBlanks_append comma, longerOthers,
          Option.bind_eq_bind, Option.bind_some]
        rfl
      next closed =>
        cases parsed
        simp only [parseFields, skipBlanks_append opened, parseString_append keyParsed,
          skipBlanks_append colon, longerValue, skipBlanks_append closed,
          Option.bind_eq_bind, Option.bind_some]
      next => cases parsed
    next => cases parsed
  next => cases parsed

theorem extends_parse (fuel : Nat) : Extends parseValue fuel ∧ Extends parseFields fuel := by
  induction fuel with
  | zero => exact ⟨extends_zero fun _ => rfl, extends_zero fun _ => rfl⟩
  | succ fuel ih => exact ⟨extends_parseValue ih.2, extends_parseFields ih.1 ih.2⟩

def dump (doc : Json) : List UInt8 := (render 0 doc).flatMap String.utf8EncodeChar

/-- The first value of the text; what follows it is not read. -/
def parse (bytes : List UInt8) : Option Json := do
  let text ← bytes.toByteArray.utf8Decode?
  let (doc, _) ← parseValue text.size text.toList
  return doc

def codec : JsonCodec := ⟨dump, parse⟩

theorem codec_faithful : codec.Faithful := by
  constructor
  intro doc textual
  have decoded : (dump doc).toByteArray.utf8Decode? = some (render 0 doc).toArray :=
    List.utf8Decode?_utf8Encode
  have read := readBack textual 0 (render 0 doc).length [] le_rfl
  rw [List.append_nil] at read
  simp only [codec, parse, decoded, Option.bind_eq_bind, Option.bind_some, List.size_toArray, read]
  rfl

/-- A document that was cut off is rejected: what was read of it would be read, with more
text left over, from the whole document. -/
theorem parse_take {doc : Json} (textual : doc.Textual) {n : Nat} (cut : n < (dump doc).length) :
    parse ((dump doc).take n) = none := by
  by_contra accepted
  obtain ⟨read, parsed⟩ := Option.ne_none_iff_exists'.mp accepted
  simp only [parse, Option.bind_eq_bind, Option.bind_eq_some_iff] at parsed
  obtain ⟨text, decoded, ⟨value, rest⟩, valueParsed, -⟩ := parsed
  have bytes : text.toList.utf8Encode = ((dump doc).take n).toByteArray := by
    have encoded := ByteArray.utf8Encode_get_utf8Decode? (b := ((dump doc).take n).toByteArray)
      (h := by rw [decoded]; rfl)
    simpa only [decoded, Option.get_some] using encoded
  have split : text.toList.utf8Encode ++ ((dump doc).drop n).toByteArray =
      (render 0 doc).utf8Encode := by
    rw [bytes, ← List.toByteArray_append, List.take_append_drop]
    rfl
  obtain ⟨more, whole⟩ := List.isPrefix_of_utf8Encode_append_eq_utf8Encode _ split
  have fuel : text.size ≤ (render 0 doc).length := by
    rw [← whole, List.length_append, Array.length_toList]
    exact Nat.le_add_right _ _
  have longer := (extends_parse text.size).1 _ _ _ valueParsed _ fuel more
  have back := readBack textual 0 (render 0 doc).length [] le_rfl
  rw [List.append_nil, ← whole] at back
  rw [← whole, back] at longer
  have nothing : more = [] := by
    have rests := congrArg Prod.snd (Option.some.inj longer)
    exact (List.append_eq_nil_iff.mp rests.symm).2
  rw [nothing, List.append_nil] at whole
  rw [whole] at bytes
  have sizes : (dump doc).length = ((dump doc).take n).length := by
    rw [← List.size_toByteArray, ← List.size_toByteArray, ← bytes]
    rfl
  rw [List.length_take_of_le cut.le] at sizes
  exact absurd sizes.symm cut.ne

theorem codec_rejectsCut : codec.RejectsCut :=
  ⟨fun _ textual _ cut => parse_take textual cut⟩

end JsonText

end HWPanel.Platform
