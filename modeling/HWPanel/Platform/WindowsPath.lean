import Mathlib.Data.List.Basic
import Mathlib.Data.List.DropRight

/-!
# Paths on Windows

`std::filesystem::path` of the Windows standard library as far as the store uses
it: the conversions from and to narrow strings, the decomposition of a text into root
name, root directory and components, `operator/`, and the file a path stands for once
the system has normalised it.
-/

namespace HWPanel.Platform

/-- A component of a path. -/
abbrev Name := List Char

def isSlash (c : Char) : Bool := c == '\\' || c == '/'

/-- The length of the root name: a drive letter with a colon, one of the prefixes
`\\?`, `\\.` and `\??`, or a server name after two slashes. -/
def rootNameLength : List Char → Nat
  | c0 :: c1 :: rest =>
      if c0.isAlpha && c1 == ':' then 2
      else if !isSlash c0 then 0
      else
        match rest with
        | c2 :: c3 :: more =>
            if isSlash c3 && more.head?.all (fun c => !isSlash c) &&
                ((isSlash c1 && (c2 == '?' || c2 == '.')) || (c1 == '?' && c2 == '?')) then 3
            else if isSlash c1 && !isSlash c2 then
              3 + ((c3 :: more).takeWhile fun c => !isSlash c).length
            else 0
        | [c2] => if isSlash c1 && !isSlash c2 then 3 else 0
        | [] => 0
  | _ => 0

/-- A path by its parts. -/
structure Path where
  rootName : Name := []
  rootDirectory : Bool := false
  relative : List Name := []
  deriving DecidableEq

namespace Path

/-- The components of a text, without the empty ones between adjacent separators. -/
def components (text : List Char) : List Name :=
  (text.splitOnP isSlash).filter fun name => name ≠ []

def ofText (text : List Char) : Path where
  rootName := text.take (rootNameLength text)
  rootDirectory := (text.drop (rootNameLength text)).head?.any isSlash
  relative := components (text.drop (rootNameLength text))

/-- The root name is a drive letter. -/
def isDrive (path : Path) : Bool := path.rootName.length == 2

/-- A path on a drive is absolute if it is rooted; one with any other root name is. -/
def isAbsolute (path : Path) : Bool :=
  if path.isDrive then path.rootDirectory else path.rootName ≠ []

/-- `operator/`: an absolute right operand, or one with another root name, replaces the
left one; a rooted right operand keeps the root name only. -/
def join (left right : Path) : Path :=
  if right.isAbsolute ∨ (right.rootName ≠ [] ∧ right.rootName ≠ left.rootName) then right
  else if right.rootDirectory then { right with rootName := left.rootName }
  else { left with relative := left.relative ++ right.relative }

/-- `path::extension` of a file name: from the last period on, unless that is the first
character. -/
def extension (name : Name) : Name :=
  match (name.reverse.takeWhile (· ≠ '.')).length with
  | suffix =>
      if suffix + 1 < name.length then name.drop (name.length - (suffix + 1)) else []

end Path

def isAscii (text : Name) : Bool := text.all fun c => c.toNat < 128

/-- The code page that narrow strings are in. -/
structure CodePage where
  /-- `MultiByteToWideChar` on the bytes of a string, with `MB_ERR_INVALID_CHARS`; `none`
  is its failure, for which the constructor of `path` throws. -/
  decode : String → Option Name
  decode_ascii : ∀ text : String, isAscii text.toList = true → decode text = some text.toList
  /-- The characters that `WideCharToMultiByte` has bytes for. -/
  encodes : Char → Bool

/-- `path::string` has a result; otherwise it throws. -/
def CodePage.prints (codePage : CodePage) (path : Path) : Bool :=
  path.rootName.all codePage.encodes && path.relative.all fun name => name.all codePage.encodes

/-- A normalised location: a root and the names from it. -/
structure FullPath where
  root : Name
  names : List Name
  deriving DecidableEq

/-- The location of the directory a file lies in. -/
def FullPath.parent (file : FullPath) : FullPath := ⟨file.root, file.names.dropLast⟩

/-- A single period at the end of a segment is removed. -/
def trimPeriod (name : Name) : Name :=
  if name.getLast? = some '.' ∧ name.dropLast.getLast? ≠ some '.' then name.dropLast else name

/-- One segment of the system's path normalisation. -/
def normaliseStep (names : List Name) (name : Name) : List Name :=
  if name = ['.', '.'] then names.dropLast
  else if trimPeriod name = [] then names
  else names ++ [trimPeriod name]

def normalise (names : List Name) : List Name := names.foldl normaliseStep []

/-- The system is passed the text up to the first null character. -/
def untilNull : List Name → List Name
  | [] => []
  | name :: rest =>
      if '\x00' ∈ name then [name.takeWhile (· ≠ '\x00')] else name :: untilNull rest

/-- All periods and spaces at the end of the last segment are removed. -/
def trimEnd (names : List Name) : List Name :=
  match names.getLast? with
  | none => []
  | some name =>
      if name = ['.', '.'] then names
      else names.dropLast ++ [name.rdropWhile fun c => c == '.' || c == ' ']

/-- The root of the devices. -/
def deviceRoot : Name := "\\\\.".toList

/-- The characters no file name contains. -/
def isReserved (c : Char) : Bool :=
  c.toNat < 32 || c ∈ ['<', '>', '"', '/', '\\', '|', '?', '*']

/-- The characters that mean something in a path. -/
def isSpecial (c : Char) : Bool := isReserved c || c ∈ [':', '.', ' ']

def isValidName (name : Name) : Bool := name ≠ [] && name.all fun c => !isReserved c

/-- A name of a directory. -/
def isDirectoryName (name : Name) : Bool := isValidName name && ':' ∉ name

/-- A name of a file, or of a file and, after a colon, a stream in it. -/
def isFileName (name : Name) : Bool :=
  isValidName (name.takeWhile fun c => c != ':') &&
    match name.dropWhile fun c => c != ':' with
    | [] => true
    | _ :: stream => isDirectoryName stream

/-- What the meaning of a path depends on besides its text: the code page, the current
directory of each drive, the current drive, and the location behind a server or device
name. -/
structure PathEnv where
  codePage : CodePage
  /-- The case folding of file names. -/
  upcase : Char → Char
  upcase_ascii : ∀ c : Char, c.toNat < 128 → upcase c = c.toUpper
  /-- No other character is taken for one that means something in a path. -/
  upcase_special : ∀ c : Char, isSpecial (upcase c) = true → upcase c = c
  currentDirectory : Name → List Name
  currentDrive : Name
  mount : Path → FullPath
  /-- The location behind names of which one has a colon: a stream, or another spelling of
  a file or a directory. -/
  stream : Name → List Name → FullPath
  /-- The limits on the lengths of names and paths. -/
  opens : FullPath → Bool
  opens_congr : ∀ file other : FullPath, file.root.map upcase = other.root.map upcase →
    (file.names.map fun name => name.map upcase) = (other.names.map fun name => name.map upcase) →
      opens file = opens other
  /-- The names, in capitals, that stand for a device in every directory. -/
  devices : List Name
  active_free : "ACTIVE".toList ∉ devices
  /-- What is read from a device, if it can be opened. -/
  input : List Name → Option (List UInt8)

namespace PathEnv

variable (env : PathEnv)

/-- The part of a file name that is compared with the device names. -/
def deviceName (name : Name) : Name :=
  ((name.takeWhile fun c => c ≠ '.' ∧ c ≠ ':').rdropWhile (· == ' ')).map env.upcase

def IsDevice (name : Name) : Prop := env.deviceName name ∈ env.devices

instance (name : Name) : Decidable (env.IsDevice name) :=
  inferInstanceAs (Decidable (_ ∈ env.devices))

/-- The location of names on a drive, or a device. -/
def locate (drive : Name) (names : List Name) : FullPath :=
  let names := normalise (trimEnd (untilNull names))
  let name := names.getLast?.getD []
  if env.IsDevice name then ⟨deviceRoot, [env.deviceName name]⟩
  else if names.any fun name => ':' ∈ name then env.stream drive names
  else ⟨drive, names⟩

def resolve (path : Path) : FullPath :=
  if path.isDrive then
    env.locate path.rootName (if path.rootDirectory then path.relative
      else env.currentDirectory path.rootName ++ path.relative)
  else if path.rootName = [] then
    env.locate env.currentDrive (if path.rootDirectory then path.relative
      else env.currentDirectory env.currentDrive ++ path.relative)
  else env.mount path

/-- File names that differ in case only are one name. -/
def fold (file : FullPath) : FullPath :=
  ⟨file.root.map env.upcase, file.names.map fun name => name.map env.upcase⟩

/-- A location where a regular file can lie and be opened. -/
def canHold (file : FullPath) : Bool :=
  file.root ≠ deviceRoot && file.names.dropLast.all isDirectoryName &&
    (file.names.getLast?.any fun name => isFileName name && !decide (env.IsDevice name)) &&
      env.opens file

end PathEnv

/-- An absolute, normalised directory on a drive. -/
structure Directory where
  drive : Char
  names : List Name
  normal : normalise names = names
  named : ∀ name ∈ names, isDirectoryName name = true

namespace Directory

def path (dir : Directory) : Path := ⟨[dir.drive, ':'], true, dir.names⟩

def full (dir : Directory) : FullPath := ⟨[dir.drive, ':'], dir.names⟩

/-- The file of this name directly in the directory. -/
def file (dir : Directory) (name : Name) : FullPath := ⟨[dir.drive, ':'], dir.names ++ [name]⟩

/-- `entry.path()` of a `directory_iterator`. -/
def entryPath (dir : Directory) (entry : FullPath) : Path :=
  ⟨[dir.drive, ':'], true, dir.names ++ [entry.names.getLast?.getD []]⟩

end Directory

/-! ## Plain file names -/

/-- A text without colons and reserved characters. -/
def PlainText (text : List Char) : Prop := ∀ c ∈ text, isReserved c = false ∧ c ≠ ':'

instance (text : List Char) : Decidable (PlainText text) :=
  List.decidableBAll (fun c => isReserved c = false ∧ c ≠ ':') text

theorem PlainText.append {front back : List Char} (frontPlain : PlainText front)
    (backPlain : PlainText back) : PlainText (front ++ back) := by
  intro c membership
  rcases List.mem_append.mp membership with inFront | inBack
  · exact frontPlain c inFront
  · exact backPlain c inBack

/-- A name that path normalisation leaves alone. -/
structure SolidName (name : Name) : Prop where
  nonempty : name ≠ []
  notUp : name ≠ ['.', '.']
  trimmed : trimPeriod name = name
  ended : name.rdropWhile (fun c => c == '.' || c == ' ') = name

theorem SolidName.of_getLast {name : Name} {c : Char} (last : name.getLast? = some c)
    (notPeriod : c ≠ '.') (notSpace : c ≠ ' ') : SolidName name := by
  constructor
  · rintro rfl
    cases last
  · rintro rfl
    exact notPeriod (Option.some.inj last).symm
  · rw [trimPeriod, if_neg]
    rintro ⟨period, -⟩
    exact notPeriod (Option.some.inj (last.symm.trans period))
  · rw [List.rdropWhile_eq_self_iff]
    intro nonempty
    rw [List.getLast?_eq_some_getLast nonempty, Option.some.injEq] at last
    simp [last, notPeriod, notSpace]

theorem isSlash_of_not_reserved {c : Char} (free : isReserved c = false) :
    isSlash c = false := by
  simp only [isReserved, Bool.or_eq_false_iff, decide_eq_false_iff_not, List.mem_cons,
    not_or] at free
  simp [isSlash, free]

theorem ne_null_of_not_reserved {c : Char} (free : isReserved c = false) : c ≠ '\x00' := by
  rintro rfl
  cases free

theorem PlainText.not_slash {text : List Char} (plain : PlainText text) :
    ∀ c ∈ text, isSlash c = false :=
  fun c membership => isSlash_of_not_reserved (plain c membership).1

theorem PlainText.noNull {text : List Char} (plain : PlainText text) : '\x00' ∉ text :=
  fun membership => ne_null_of_not_reserved (plain _ membership).1 rfl

theorem PlainText.noStream {text : List Char} (plain : PlainText text) : ':' ∉ text :=
  fun membership => (plain _ membership).2 rfl

theorem PlainText.isValidName {text : List Char} (plain : PlainText text)
    (nonempty : text ≠ []) : isValidName text = true := by
  rw [Platform.isValidName, Bool.and_eq_true, decide_eq_true_iff, List.all_eq_true]
  refine ⟨nonempty, fun c membership => ?_⟩
  rw [(plain c membership).1]
  rfl

theorem takeWhile_stream {name : Name} (noStream : ':' ∉ name) :
    name.takeWhile (fun c => c != ':') = name := by
  rw [List.takeWhile_eq_self_iff]
  intro c membership
  rw [bne_iff_ne]
  rintro rfl
  exact noStream membership

theorem dropWhile_stream {name : Name} (noStream : ':' ∉ name) :
    name.dropWhile (fun c => c != ':') = [] := by
  rw [List.dropWhile_eq_nil_iff]
  intro c membership
  rw [bne_iff_ne]
  rintro rfl
  exact noStream membership

theorem PlainText.isFileName {text : List Char} (plain : PlainText text)
    (nonempty : text ≠ []) : isFileName text = true := by
  rw [Platform.isFileName, takeWhile_stream plain.noStream, dropWhile_stream plain.noStream,
    plain.isValidName nonempty]
  rfl

theorem isValidName_of_isFileName {name : Name} (isFile : isFileName name = true)
    (noStream : ':' ∉ name) : isValidName name = true := by
  rw [isFileName, takeWhile_stream noStream, Bool.and_eq_true] at isFile
  exact isFile.1

/-- A name of a file or a directory contains no reserved character. -/
theorem not_reserved_of_isValidName {name : Name} (valid : isValidName name = true) {c : Char}
    (membership : c ∈ name) : isReserved c = false := by
  rw [isValidName, Bool.and_eq_true, List.all_eq_true] at valid
  simpa using valid.2 c membership

theorem PlainText.rootNameLength {text : List Char} (plain : PlainText text) :
    rootNameLength text = 0 := by
  match text, plain with
  | [], _ => rfl
  | [_], _ => rfl
  | c0 :: c1 :: rest, plain =>
      have first := plain.not_slash c0 List.mem_cons_self
      have colon := (plain c1 (List.mem_cons_of_mem _ List.mem_cons_self)).2
      simp [Platform.rootNameLength, first, colon]

theorem Path.ofText_plain {text : List Char} (plain : PlainText text) (nonempty : text ≠ []) :
    Path.ofText text = ⟨[], false, [text]⟩ := by
  have rooted : text.head?.any isSlash = false := by
    cases text with
    | nil => rfl
    | cons c rest => exact plain.not_slash c List.mem_cons_self
  rw [ofText, plain.rootNameLength, List.take_zero, List.drop_zero, rooted, components,
    List.splitOnP_eq_singleton plain.not_slash]
  simp [nonempty]

theorem normaliseStep_solid {name : Name} (solid : SolidName name) (names : List Name) :
    normaliseStep names name = names ++ [name] := by
  rw [normaliseStep, if_neg solid.notUp, solid.trimmed, if_neg solid.nonempty]

theorem normalise_append (front back : List Name) :
    normalise (front ++ back) = back.foldl normaliseStep (normalise front) :=
  List.foldl_append

theorem untilNull_of_free {names : List Name} (free : ∀ name ∈ names, '\x00' ∉ name) :
    untilNull names = names := by
  induction names with
  | nil => rfl
  | cons name rest ih =>
      rw [untilNull, if_neg (free name List.mem_cons_self),
        ih fun other membership => free other (List.mem_cons_of_mem _ membership)]

theorem trimEnd_solid {name : Name} (solid : SolidName name) (names : List Name) :
    trimEnd (names ++ [name]) = names ++ [name] := by
  rw [trimEnd, List.getLast?_concat]
  simp only [if_neg solid.notUp, List.dropLast_concat, solid.ended]

namespace Directory

variable (dir : Directory)

theorem noNull : ∀ name ∈ dir.names, '\x00' ∉ name := by
  intro name membership null
  have valid := dir.named name membership
  rw [isDirectoryName, Bool.and_eq_true] at valid
  exact ne_null_of_not_reserved (not_reserved_of_isValidName valid.1 null) rfl

theorem noStream_file {name : Name} (noStream : ':' ∉ name) :
    ((dir.names ++ [name]).any fun name => ':' ∈ name) = false := by
  rw [List.any_append, List.any_cons, List.any_nil, Bool.or_false, Bool.or_eq_false_iff,
    List.any_eq_false, decide_eq_false_iff_not]
  refine ⟨fun other membership colon => ?_, noStream⟩
  have named := dir.named other membership
  rw [isDirectoryName, Bool.and_eq_true, decide_eq_true_iff] at named
  exact named.2 (decide_eq_true_iff.mp colon)

/-- A name that is not changed is looked up in the directory. -/
theorem normalise_file {name : Name} (solid : SolidName name) (noNull : '\x00' ∉ name) :
    normalise (trimEnd (untilNull (dir.names ++ [name]))) = dir.names ++ [name] := by
  have free : ∀ other ∈ dir.names ++ [name], '\x00' ∉ other := by
    intro other membership
    rcases List.mem_append.mp membership with inDir | last
    · exact dir.noNull other inDir
    · cases List.mem_singleton.mp last
      exact noNull
  rw [untilNull_of_free free, trimEnd_solid solid, normalise_append, dir.normal, List.foldl_cons,
    normaliseStep_solid solid]
  rfl

end Directory

namespace PathEnv

variable (env : PathEnv) (dir : Directory) {text : List Char}

/-- A solid name in the directory is looked up there. -/
theorem resolve_file (solid : SolidName text) (noNull : '\x00' ∉ text) (noStream : ':' ∉ text)
    (notDevice : ¬ env.IsDevice text) :
    env.resolve ⟨[dir.drive, ':'], true, dir.names ++ [text]⟩ = dir.file text := by
  rw [resolve]
  simp only [Path.isDrive, List.length_cons, List.length_nil, Nat.zero_add, Nat.reduceAdd,
    BEq.rfl, if_true, locate, dir.normalise_file solid noNull, List.getLast?_concat,
    Option.getD_some, if_neg notDevice, dir.noStream_file noStream, Bool.false_eq_true,
    if_false]
  rfl

/-- A plain name stands for the file of that name in the directory. -/
theorem resolve_join_plain (plain : PlainText text) (solid : SolidName text)
    (notDevice : ¬ env.IsDevice text) :
    env.resolve (dir.path.join (.ofText text)) = dir.file text := by
  have joined : dir.path.join ⟨[], false, [text]⟩ =
      ⟨[dir.drive, ':'], true, dir.names ++ [text]⟩ := by
    simp [Path.join, Path.isAbsolute, Path.isDrive, Directory.path]
  rw [Path.ofText_plain plain solid.nonempty, joined]
  exact env.resolve_file dir solid plain.noNull plain.noStream notDevice

@[simp] theorem canHold_file (plain : PlainText text) (solid : SolidName text)
    (notDevice : ¬ env.IsDevice text) (opened : env.opens (dir.file text) = true) :
    env.canHold (dir.file text) = true := by
  have drive : [dir.drive, ':'] ≠ deviceRoot := by
    intro same
    cases congrArg List.length same
  rw [canHold, opened]
  simp only [Directory.file, List.dropLast_concat, List.getLast?_concat,
    Bool.and_eq_true, List.all_eq_true, Option.any_some, and_true]
  refine ⟨⟨decide_eq_true drive, dir.named⟩, plain.isFileName solid.nonempty, ?_⟩
  simp [notDevice]

end PathEnv

/-- The extension of a name does not matter to the device names. -/
theorem PathEnv.isDevice_extension (env : PathEnv) (stem suffix : List Char) :
    env.IsDevice (stem ++ '.' :: suffix) ↔ env.IsDevice stem := by
  have same : (stem ++ '.' :: suffix).takeWhile (fun c => c ≠ '.' ∧ c ≠ ':') =
      stem.takeWhile fun c => c ≠ '.' ∧ c ≠ ':' := by
    induction stem with
    | nil => rfl
    | cons c stem ih =>
        rw [List.cons_append, List.takeWhile_cons, List.takeWhile_cons, ih]
  rw [IsDevice, IsDevice, deviceName, deviceName, same]

namespace PathEnv

variable {env : PathEnv}

/-- Files of one directory are told apart by their folded names. -/
theorem fold_file (dir : Directory) (first second : Name) :
    env.fold (dir.file first) = env.fold (dir.file second) ↔
      first.map env.upcase = second.map env.upcase := by
  simp [fold, Directory.file]

@[simp] theorem fold_parent (file : FullPath) : env.fold file.parent = (env.fold file).parent := by
  simp [fold, FullPath.parent, List.map_dropLast]

theorem upcase_of_special {c : Char} (special : isSpecial c = true) : env.upcase c = c := by
  obtain ⟨ascii, fixed⟩ : c.toNat < 128 ∧ c.toUpper = c := by
    simp only [isSpecial, isReserved, Bool.or_eq_true, decide_eq_true_iff, List.mem_cons,
      List.not_mem_nil, or_false] at special
    rcases special with (control | listed) | listed
    · refine ⟨Nat.lt_trans control (by decide), dif_neg ?_⟩
      intro letter
      have large : 97 ≤ c.toNat := UInt32.le_iff_toNat_le.mp letter.1
      omega
    · rcases listed with rfl | rfl | rfl | rfl | rfl | rfl | rfl | rfl <;> decide
    · rcases listed with rfl | rfl | rfl <;> decide
  rw [env.upcase_ascii c ascii, fixed]

theorem isSpecial_of_isReserved {c : Char} (reserved : isReserved c = true) :
    isSpecial c = true := by
  rw [isSpecial, reserved, Bool.true_or]

theorem upcase_eq_iff {c special : Char} (isSpecial : isSpecial special = true) :
    env.upcase c = special ↔ c = special := by
  constructor
  · rintro rfl
    exact (env.upcase_special c isSpecial).symm
  · rintro rfl
    exact upcase_of_special isSpecial

theorem map_upcase_eq_iff {text : Name} (special : text.all isSpecial = true) {name : Name} :
    name.map env.upcase = text ↔ name = text := by
  induction text generalizing name with
  | nil => exact List.map_eq_nil_iff
  | cons c rest ih =>
      rw [List.all_cons, Bool.and_eq_true] at special
      cases name with
      | nil => simp
      | cons d name =>
          rw [List.map_cons, List.cons.injEq, List.cons.injEq, upcase_eq_iff special.1,
            ih special.2]

@[simp] theorem isReserved_upcase (c : Char) : isReserved (env.upcase c) = isReserved c := by
  rw [Bool.eq_iff_iff]
  constructor
  · intro reserved
    rwa [env.upcase_special c (isSpecial_of_isReserved reserved)] at reserved
  · intro reserved
    rwa [upcase_of_special (isSpecial_of_isReserved reserved)]

theorem upcase_beq (c : Char) {special : Char} (isSpecial : isSpecial special = true) :
    (env.upcase c == special) = (c == special) := by
  rw [Bool.eq_iff_iff, beq_iff_eq, beq_iff_eq, upcase_eq_iff isSpecial]

@[simp] theorem isValidName_fold (name : Name) :
    isValidName (name.map env.upcase) = isValidName name := by
  simp [isValidName, List.all_map, Function.comp_def, isReserved_upcase]

theorem mem_fold {special : Char} (isSpecial : isSpecial special = true) {name : Name} :
    special ∈ name.map env.upcase ↔ special ∈ name := by
  rw [List.mem_map]
  constructor
  · rintro ⟨c, membership, same⟩
    rw [(upcase_eq_iff isSpecial).mp same] at membership
    exact membership
  · exact fun membership => ⟨special, membership, upcase_of_special isSpecial⟩

@[simp] theorem isDirectoryName_fold (name : Name) :
    isDirectoryName (name.map env.upcase) = isDirectoryName name := by
  have colon : ':' ∈ name.map env.upcase ↔ ':' ∈ name := mem_fold (by decide)
  rw [isDirectoryName, isDirectoryName, isValidName_fold]
  simp only [colon]

@[simp] theorem isFileName_fold (name : Name) :
    isFileName (name.map env.upcase) = isFileName name := by
  have colon : ∀ c, (env.upcase c != ':') = (c != ':') := by
    intro c
    rw [bne, bne, upcase_beq c (by decide)]
  rw [isFileName, isFileName, List.takeWhile_map, List.dropWhile_map]
  simp only [Function.comp_def, colon, isValidName_fold]
  cases name.dropWhile fun c => c != ':' with
  | nil => rfl
  | cons c stream => simp only [List.map_cons, isDirectoryName_fold]

theorem deviceName_eq (name : Name) :
    env.deviceName name =
      ((name.map env.upcase).takeWhile fun c => c ≠ '.' ∧ c ≠ ':').rdropWhile (· == ' ') := by
  have period : ∀ c, env.upcase c = '.' ↔ c = '.' := fun c => upcase_eq_iff (by decide)
  have colon : ∀ c, env.upcase c = ':' ↔ c = ':' := fun c => upcase_eq_iff (by decide)
  have blank : ∀ c, (env.upcase c == ' ') = (c == ' ') := fun c => upcase_beq c (by decide)
  rw [deviceName, List.takeWhile_map, List.rdropWhile, List.rdropWhile, ← List.map_reverse,
    List.dropWhile_map, List.map_reverse]
  simp only [Function.comp_def, Ne, period, colon, blank]

/-- All spellings of a location can hold a file, or none. -/
theorem canHold_congr {file other : FullPath} (same : env.fold file = env.fold other) :
    env.canHold file = env.canHold other := by
  have folded : ∀ file : FullPath, env.canHold file =
      ((env.fold file).root ≠ deviceRoot && (env.fold file).names.dropLast.all isDirectoryName &&
        ((env.fold file).names.getLast?.any fun name => isFileName name &&
          !decide (((name.takeWhile fun c => c ≠ '.' ∧ c ≠ ':').rdropWhile (· == ' ')) ∈
            env.devices)) && env.opens file) := by
    intro file
    have roots : file.root.map env.upcase = deviceRoot ↔ file.root = deviceRoot :=
      map_upcase_eq_iff (by decide)
    rw [canHold]
    simp only [fold, Ne, roots, ← List.map_dropLast, List.all_map, List.getLast?_map,
      Option.any_map, Function.comp_def, isDirectoryName_fold, isFileName_fold, IsDevice,
      deviceName_eq]
  rw [folded, folded, same, env.opens_congr file other (congrArg FullPath.root same)
    (congrArg FullPath.names same)]

/-- A file has a name. -/
theorem exists_name_of_canHold {file : FullPath} (holds : env.canHold file = true) :
    ∃ name, file.names.getLast? = some name ∧ isFileName name = true ∧ ¬ env.IsDevice name := by
  rw [canHold, Bool.and_eq_true, Bool.and_eq_true] at holds
  obtain ⟨⟨-, named⟩, -⟩ := holds
  cases last : file.names.getLast? with
  | none =>
      rw [last] at named
      cases named
  | some name =>
      rw [last, Option.any_some, Bool.and_eq_true] at named
      exact ⟨name, rfl, named.1, by simpa using named.2⟩

/-- A file in the directory is the one of its last name. -/
theorem fold_file_of_parent {dir : Directory} {file : FullPath} {name : Name}
    (last : file.names.getLast? = some name)
    (inDir : env.fold file.parent = env.fold dir.full) :
    env.fold (dir.file name) = env.fold file := by
  obtain ⟨root, names⟩ := file
  have split := List.dropLast_append_getLast? name (Option.mem_def.mpr last)
  simp only [fold, FullPath.parent, Directory.full, FullPath.mk.injEq] at inDir
  simp only [fold, Directory.file, FullPath.mk.injEq]
  refine ⟨inDir.1.symm, ?_⟩
  rw [List.map_append, ← inDir.2, ← List.map_append, split]

end PathEnv

@[simp] theorem Directory.parent_file (dir : Directory) (name : Name) :
    (dir.file name).parent = dir.full := by
  simp [file, full, FullPath.parent]

end HWPanel.Platform
