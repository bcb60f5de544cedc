import HWPanel.Collectors.PerfNames

/-!
# Counter paths

`ParsePath` splits an English counter path at the first parenthesis and the last
backslash, and `LocalizePath` puts it together again with the object and the counter in
the language of the system.
-/

namespace HWPanel.Collectors

open HWPanel.Library

/-- `\`, `(` and `)`. -/
def backslash : WChar := 0x5c

def openParen : WChar := 0x28

def closeParen : WChar := 0x29

/-- `instance_` is empty when absent; wildcards are kept as they are. -/
structure PathParts where
  object : WString
  instance_ : WString
  counter : WString
  deriving DecidableEq

/-- `text.substr(start, count)`. -/
def substr (text : WString) (start count : Nat) : WString := (text.drop start).take count

/-- The parts, when neither the object nor the counter is empty. -/
def PathParts.checked (parts : PathParts) : Option PathParts :=
  if parts.object ≠ [] ∧ parts.counter ≠ [] then some parts else none

def parsePath (path : WString) : Option PathParts :=
  if path.length < 3 ∨ path.head? ≠ some backslash then none
  else
    let open_ := findFrom path openParen 1
    match findLast path backslash with
    | none => none
    | some lastBs =>
        if lastBs = 0 then none
        else
          let counter := path.drop (lastBs + 1)
          match open_.filter (· < lastBs) with
          | some open_ =>
              match findFrom path closeParen open_ with
              | none => none
              | some close =>
                  if lastBs < close then none
                  else PathParts.checked ⟨substr path 1 (open_ - 1),
                    substr path (open_ + 1) (close - open_ - 1), counter⟩
          | none => PathParts.checked ⟨substr path 1 (lastBs - 1), [], counter⟩

/-- What `PdhLookupPerfNameByIndexW` answers for an index: the size it asks for, and the
code, the characters and the size of the second call. -/
structure PerfNames where
  size : Nat → Nat
  code : Nat → Nat
  name : Nat → WString
  written : Nat → Nat

/-- `LocalizedName`; `none` is a write or a read outside the table's buffer. -/
def localizedName (towlower : WChar → WChar) (perflib : Perflib) (names : PerfNames)
    (englishName : WString) : Option WString :=
  (perflib.englishNameToIndex towlower englishName).map fun index =>
    match index with
    | none => englishName
    | some index =>
        if names.size index = 0 then englishName
        else if names.code index ≠ 0 then englishName
        else
          -- The terminator is stripped; `size - 1` is a `DWORD`.
          filled ((names.written index + (2 ^ 32 - 1)) % 2 ^ 32)
            (filled (names.size index) (names.name index))

/-- `LocalizePath` over the localization of a name. -/
def localizePath (localizedName : WString → Option WString) (englishPath : WString) :
    Option WString :=
  match parsePath englishPath with
  | none => some englishPath
  | some parts =>
      (localizedName parts.object).bind fun object =>
        (localizedName parts.counter).map fun counter =>
          let localized := backslash :: object
          let localized :=
            if parts.instance_ ≠ [] then
              localized ++ (openParen :: parts.instance_ ++ [closeParen])
            else localized
          localized ++ backslash :: counter

/-- `LocalizedName` is a function of the name when the registry answers within the bytes
allocated. -/
theorem exists_localization (towlower : WChar → WChar) {perflib : Perflib}
    (fits : perflib.Fits) (names : PerfNames) :
    ∃ localization : WString → WString, ∀ englishName,
      localizedName towlower perflib names englishName = some (localization englishName) := by
  have answers (englishName : WString) :
      (localizedName towlower perflib names englishName).isSome := by
    rw [localizedName, Option.isSome_map]
    exact perflib.englishNameToIndex_isSome fits englishName
  exact ⟨fun englishName => (localizedName towlower perflib names englishName).get
    (answers englishName), fun englishName => (Option.some_get _).symm⟩

/-- `\object[(instance)]\counter`. -/
def composePath (object : WString) (instance_ : Option WString) (counter : WString) :
    WString :=
  match instance_ with
  | none => backslash :: object ++ backslash :: counter
  | some name =>
      backslash :: object ++ (openParen :: name ++ [closeParen]) ++ backslash :: counter

/-- The names a path is composed of. -/
structure IsPath (object : WString) (instance_ : Option WString) (counter : WString) : Prop where
  object_ne_nil : object ≠ []
  object_plain : openParen ∉ object
  instance_ne_nil : ∀ name ∈ instance_, name ≠ []
  instance_plain : ∀ name ∈ instance_, closeParen ∉ name
  counter_ne_nil : counter ≠ []
  counter_plain : backslash ∉ counter

variable {object counter : WString}

/-- The part of a text between what stands before and after it. -/
theorem substr_append (front middle back : WString) {start count : Nat}
    (starts : start = front.length) (counts : count = middle.length) :
    substr (front ++ (middle ++ back)) start count = middle := by
  rw [substr, starts, counts, List.drop_left, List.take_left]

theorem parsePath_without_instance (isPath : IsPath object none counter) :
    parsePath (composePath object none counter) = some ⟨object, [], counter⟩ := by
  have objectLength := List.length_pos_iff.mpr isPath.object_ne_nil
  have counterLength := List.length_pos_iff.mpr isPath.counter_ne_nil
  have long : ¬((composePath object none counter).length < 3 ∨
      (composePath object none counter).head? ≠ some backslash) := by
    rw [not_or, not_not]
    refine ⟨?_, rfl⟩
    simp only [composePath, List.cons_append, List.length_cons, List.length_append]
    omega
  have last : findLast (composePath object none counter) backslash = some (object.length + 1) :=
    findLast_append isPath.counter_plain (backslash :: object)
  have opens : (findFrom (composePath object none counter) openParen 1).filter
      (· < object.length + 1) = none := by
    refine Option.filter_eq_none_iff.mpr fun position found => ?_
    have passed : [backslash].length + object.length ≤ position :=
      le_of_findFrom_append isPath.object_plain found
    rw [List.length_singleton] at passed
    rw [decide_eq_true_eq]
    omega
  have objectPart : substr (composePath object none counter) 1 (object.length + 1 - 1) =
      object := substr_append [backslash] object (backslash :: counter) rfl rfl
  have counterPart : (composePath object none counter).drop (object.length + 1 + 1) =
      counter := by
    simp [composePath]
  rw [parsePath, if_neg long, last]
  simp only [opens, objectPart, counterPart]
  rw [if_neg (Nat.succ_ne_zero _), PathParts.checked,
    if_pos ⟨isPath.object_ne_nil, isPath.counter_ne_nil⟩]

theorem parsePath_with_instance {name : WString} (isPath : IsPath object (some name) counter) :
    parsePath (composePath object (some name) counter) = some ⟨object, name, counter⟩ := by
  have objectLength := List.length_pos_iff.mpr isPath.object_ne_nil
  have long : ¬((composePath object (some name) counter).length < 3 ∨
      (composePath object (some name) counter).head? ≠ some backslash) := by
    rw [not_or, not_not]
    refine ⟨?_, rfl⟩
    simp only [composePath, List.cons_append, List.length_cons, List.length_append]
    omega
  -- The path again from each of its separators on.
  have atOpen : composePath object (some name) counter = [backslash] ++
      (object ++ openParen :: (name ++ closeParen :: backslash :: counter)) := by
    simp [composePath]
  have atClose : composePath object (some name) counter = (backslash :: object) ++
      ((openParen :: name) ++ closeParen :: (backslash :: counter)) := by
    simp [composePath]
  have atName : composePath object (some name) counter = (backslash :: object ++ [openParen]) ++
      (name ++ closeParen :: (backslash :: counter)) := by
    simp [composePath]
  have opens : findFrom (composePath object (some name) counter) openParen 1 =
      some (1 + object.length) := by
    rw [atOpen]
    exact findFrom_append isPath.object_plain [backslash] _
  have closes : findFrom (composePath object (some name) counter) closeParen
      (1 + object.length) = some (object.length + 1 + (name.length + 1)) := by
    have plain : closeParen ∉ openParen :: name := by
      rw [List.mem_cons, not_or]
      exact ⟨by decide, isPath.instance_plain name rfl⟩
    rw [atClose, Nat.add_comm 1]
    exact findFrom_append plain (backslash :: object) _
  have frontLength : (backslash :: object ++ (openParen :: name ++ [closeParen])).length =
      object.length + 1 + (name.length + 1) + 1 := by
    simp only [List.length_append, List.length_cons, List.length_nil]
    omega
  have last : findLast (composePath object (some name) counter) backslash =
      some (object.length + 1 + (name.length + 1) + 1) := by
    rw [← frontLength]
    exact findLast_append isPath.counter_plain _
  have objectPart : substr (composePath object (some name) counter) 1
      (1 + object.length - 1) = object := by
    rw [atOpen]
    exact substr_append [backslash] object _ rfl (by omega)
  have namePart : substr (composePath object (some name) counter) (1 + object.length + 1)
      (object.length + 1 + (name.length + 1) - (1 + object.length) - 1) = name := by
    rw [atName]
    refine substr_append _ name _ ?_ ?_
    · simp only [List.length_append, List.length_cons, List.length_nil]
      omega
    · omega
  have counterPart : (composePath object (some name) counter).drop
      (object.length + 1 + (name.length + 1) + 1 + 1) = counter := by
    rw [← frontLength, ← List.drop_drop, composePath, List.drop_left]
    rfl
  rw [parsePath, if_neg long, last, opens]
  have before : 1 + object.length < object.length + 1 + (name.length + 1) + 1 := by omega
  simp only [Option.filter_some, before, decide_true, if_true, closes, objectPart, namePart,
    counterPart]
  rw [if_neg (Nat.succ_ne_zero _), if_neg (by omega), PathParts.checked,
    if_pos ⟨isPath.object_ne_nil, isPath.counter_ne_nil⟩]

/-- A composed path parses back to its names, and is localized name by name. -/
theorem counter_paths_localize (object : WString) (instance_ : Option WString)
    (counter : WString) (isPath : IsPath object instance_ counter) :
    parsePath (composePath object instance_ counter) =
        some ⟨object, instance_.getD [], counter⟩ ∧
      ∀ (localized : WString → Option WString) (localObject localCounter : WString),
        localized object = some localObject → localized counter = some localCounter →
          localizePath localized (composePath object instance_ counter) =
            some (composePath localObject instance_ localCounter) := by
  have parsed : parsePath (composePath object instance_ counter) =
      some ⟨object, instance_.getD [], counter⟩ := by
    cases instance_ with
    | none => exact parsePath_without_instance isPath
    | some name => exact parsePath_with_instance isPath
  refine ⟨parsed, fun localized localObject localCounter ofObject ofCounter => ?_⟩
  rw [localizePath, parsed]
  simp only [ofObject, ofCounter, Option.bind_some, Option.map_some]
  cases instance_ with
  | none => rfl
  | some name =>
      rw [Option.getD_some, if_pos (isPath.instance_ne_nil name rfl)]
      rfl

/-- A path with an instance in which both separators occur again. -/
theorem counter_paths_localize_instance :
    localizePath (fun name => some (0x78 :: name))
        [0x5c, 0x47, 0x28, 0x2a, 0x28, 0x5c, 0x29, 0x5c, 0x25, 0x28, 0x29] =
      some [0x5c, 0x78, 0x47, 0x28, 0x2a, 0x28, 0x5c, 0x29, 0x5c, 0x78, 0x25, 0x28, 0x29] :=
  (counter_paths_localize [0x47] (some [0x2a, 0x28, 0x5c]) [0x25, 0x28, 0x29]
    { object_ne_nil := by decide
      object_plain := by decide
      instance_ne_nil := by decide
      instance_plain := by decide
      counter_ne_nil := by decide
      counter_plain := by decide }).2 (fun name => some (0x78 :: name)) _ _ rfl rfl

end HWPanel.Collectors
