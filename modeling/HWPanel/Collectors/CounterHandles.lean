import HWPanel.Collectors.CounterPaths
import HWPanel.Collectors.MetricIds

/-!
# The counters of the PDH collector

The constructor adds a counter for each of its paths, and for a wildcard path one for
each path that `PdhExpandWildCardPathW` lists. The list is walked by its terminators, and
`Collect` sums the counters of a path into one metric.
-/

namespace HWPanel.Collectors

open HWPanel.Core
open HWPanel.Library

/-- A counter of the query; `handle` stands for the counter that PDH added. -/
structure Counter (H : Type) where
  handle : H
  specIndex : Nat

def pdhMoreData : Nat := 0x800007d2

/-- `*`. -/
def star : WChar := 0x2a

/-- What PDH answers to the constructor: the code of `PdhOpenQueryW`; for a wildcard path
the code and the size of the first `PdhExpandWildCardPathW`, the code of the second and
what it writes; and what `PdhAddCounterW` adds for a path. A path is answered alike each time
it is asked for. -/
structure PdhQuery (H : Type) where
  openCode : Nat
  sizeCode : WString → Nat
  listSize : WString → Nat
  expandCode : WString → Nat
  expansion : WString → WString
  addCounterW : WString → Option H

namespace PdhQuery

variable {H : Type} (query : PdhQuery H)

/-- `PdhAddCounterW`, after what has been added so far. -/
def add (specIndex : Nat) (result : Bool × List (Counter H)) (path : WString) :
    Bool × List (Counter H) :=
  match query.addCounterW path with
  | none => result
  | some handle => (true, result.2 ++ [⟨handle, specIndex⟩])

/-- The loop over the expanded paths from position `p`; `none` is a read outside the
buffer. -/
def addExpanded (buffer : WString) (specIndex : Nat) (p : Nat)
    (result : Bool × List (Counter H)) : Option (Bool × List (Counter H)) :=
  match found : cell 0 buffer p with
  | none => none
  | some c =>
      if c = 0 then some result
      else (readString 0 buffer p).bind fun expanded =>
        addExpanded buffer specIndex (p + expanded.length + 1) (query.add specIndex result expanded)
termination_by buffer.length + 1 - p
decreasing_by
  have inside := (cell_isSome_iff 0 buffer p).mp (by rw [found]; rfl)
  omega

variable (localize : WString → Option WString)

/-- `AddCounter`, with the counters it leaves. -/
def addCounter (englishPath : WString) (specIndex : Nat) (counters : List (Counter H)) :
    Option (Bool × List (Counter H)) :=
  (localize englishPath).bind fun localized =>
    if star ∈ localized then
      if query.sizeCode localized ≠ pdhMoreData ∨ query.listSize localized = 0 then
        some (false, counters)
      else if query.expandCode localized ≠ 0 then some (false, counters)
      else query.addExpanded (filled (query.listSize localized) (query.expansion localized))
        specIndex 0 (false, counters)
    else some (query.add specIndex (false, counters) localized)

/-- A wide string literal. -/
def wide (text : String) : WString := text.toList.map fun c => UInt16.ofNat c.toNat

/-- The loop of the constructor: the counters, and the paths that the log names. -/
def addPaths : List (String × Nat) → List (Counter H) × List String →
    Option (List (Counter H) × List String)
  | [], result => some result
  | (path, specIndex) :: rest, (counters, unavailable) =>
      (query.addCounter localize (wide path) specIndex counters).bind
        fun (added, counters) =>
          addPaths rest (counters, if added then unavailable else unavailable ++ [path])

/-- What the constructor leaves. -/
structure Constructed (H : Type) where
  ready : Bool
  counters : List (Counter H)
  unavailable : List String

/-- `PdhCollector::PdhCollector`. -/
def construct : Option (Constructed H) :=
  if query.openCode ≠ 0 then some ⟨false, [], []⟩
  else
    (query.addPaths localize paths.zipIdx ([], [])).map fun (counters, unavailable) =>
      ⟨!counters.isEmpty, counters, unavailable⟩

/-- The counters of the paths that PDH accepts. -/
def countersOf (tried : List WString) (specIndex : Nat) : List (Counter H) :=
  (tried.filterMap query.addCounterW).map (⟨·, specIndex⟩)

/-- PDH accepts one of the paths. -/
def acceptsOne (tried : List WString) : Bool :=
  tried.any fun path => (query.addCounterW path).isSome

/-- PDH refuses to expand the path. -/
def Refuses (localized : WString) : Prop :=
  query.sizeCode localized ≠ pdhMoreData ∨ query.listSize localized = 0 ∨
    query.expandCode localized ≠ 0

/-- The paths tried for an English path: itself in the language of the system, or those
listed before an empty one in the answer to a wildcard. -/
def Tries (englishPath : WString) (tried : List WString) : Prop :=
  ∃ localized, localize englishPath = some localized ∧
    ((star ∉ localized ∧ tried = [localized]) ∨
      (star ∈ localized ∧ query.Refuses localized ∧ tried = []) ∨
      (star ∈ localized ∧ ¬query.Refuses localized ∧ (∀ path ∈ tried, IsEntry path) ∧
        ∃ rest, filled (query.listSize localized) (query.expansion localized) ++ [0] =
          joinStrings 0 tried ++ 0 :: rest))

variable {query localize}

theorem foldl_add (tried : List WString) (specIndex : Nat) (result : Bool × List (Counter H)) :
    tried.foldl (query.add specIndex) result =
      (result.1 || query.acceptsOne tried,
        result.2 ++ query.countersOf tried specIndex) := by
  induction tried generalizing result with
  | nil => simp [acceptsOne, countersOf]
  | cons path tried ih =>
      rw [List.foldl_cons, ih, add]
      cases accepted : query.addCounterW path with
      | none => simp [acceptsOne, countersOf, accepted]
      | some handle => simp [acceptsOne, countersOf, accepted]

/-- The loop reads a list of strings, and tries each of them. -/
theorem addExpanded_eq (buffer : WString) (specIndex p : Nat)
    (result : Bool × List (Counter H)) :
    query.addExpanded buffer specIndex p result =
      (readStrings 0 buffer p).map fun tried => tried.foldl (query.add specIndex) result := by
  fun_induction addExpanded query buffer specIndex p result with
  | case1 p result missing =>
      rw [readStrings_of_outside 0 missing]
      rfl
  | case2 p result found =>
      have empty : readString 0 buffer p = some [] := by
        rw [readString_of_cell 0 found, if_pos rfl]
      rw [readStrings_of_readString 0 empty, if_pos rfl]
      rfl
  | case3 p result c found other ih =>
      have inside := (cell_isSome_iff 0 buffer p).mp (by rw [found]; rfl)
      obtain ⟨text, read⟩ := Option.isSome_iff_exists.mp (readString_isSome 0 inside)
      have nonempty : text ≠ [] := by
        rintro rfl
        rw [readString_of_cell 0 found, if_neg other] at read
        obtain ⟨rest, -, empty⟩ := Option.map_eq_some_iff.mp read
        cases empty
      rw [read, Option.bind_some, ih text, readStrings_of_readString 0 read, if_neg nonempty,
        Option.map_map]
      rfl

/-- The paths tried for a localized path, as the buffer is read. -/
def listed (query : PdhQuery H) (localized : WString) : Option (List WString) :=
  if star ∈ localized then
    if query.sizeCode localized ≠ pdhMoreData ∨ query.listSize localized = 0 then some []
    else if query.expandCode localized ≠ 0 then some []
    else readStrings 0 (filled (query.listSize localized) (query.expansion localized)) 0
  else some [localized]

theorem listed_eq_some_iff {localized : WString} {tried : List WString} :
    query.listed localized = some tried ↔
      (star ∉ localized ∧ tried = [localized]) ∨
        (star ∈ localized ∧ query.Refuses localized ∧ tried = []) ∨
        (star ∈ localized ∧ ¬query.Refuses localized ∧ (∀ path ∈ tried, IsEntry path) ∧
          ∃ rest, filled (query.listSize localized) (query.expansion localized) ++ [0] =
            joinStrings 0 tried ++ 0 :: rest) := by
  rw [listed]
  split
  case isFalse plain => simp [plain, eq_comm]
  case isTrue wildcard =>
    split
    case isTrue unsized =>
      have refuses : query.Refuses localized := by
        rw [Refuses, ← or_assoc]
        exact .inl unsized
      simp [wildcard, refuses, eq_comm]
    case isFalse sized =>
      split
      case isTrue unexpanded =>
        have refuses : query.Refuses localized := .inr (.inr unexpanded)
        simp [wildcard, refuses, eq_comm]
      case isFalse expanded =>
        have accepts : ¬query.Refuses localized := by
          rw [Refuses, ← or_assoc, not_or]
          exact ⟨sized, expanded⟩
        rw [readStrings_eq_some_iff, List.drop_zero]
        simp only [wildcard, accepts, not_true_eq_false, false_and, and_false, false_or, true_and,
          not_false_eq_true, IsEntry]

theorem tries_iff {englishPath : WString} {tried : List WString} :
    query.Tries localize englishPath tried ↔
      (localize englishPath).bind query.listed = some tried := by
  rw [Option.bind_eq_some_iff]
  exact exists_congr fun localized => and_congr_right fun _ => listed_eq_some_iff.symm

/-- `AddCounter` tries the listed paths in their order. -/
theorem addCounter_eq (englishPath : WString) (specIndex : Nat) (counters : List (Counter H)) :
    query.addCounter localize englishPath specIndex counters =
      ((localize englishPath).bind query.listed).map fun tried =>
        (query.acceptsOne tried,
          counters ++ query.countersOf tried specIndex) := by
  have added (tried : List WString) : tried.foldl (query.add specIndex) (false, counters) =
      (query.acceptsOne tried,
        counters ++ query.countersOf tried specIndex) := by
    rw [foldl_add, Bool.false_or]
  simp only [← added]
  rw [addCounter, Option.map_bind]
  congr 1
  funext localized
  rw [Function.comp_apply, listed]
  split
  · split
    · rfl
    · split
      · rfl
      · exact addExpanded_eq _ specIndex 0 (false, counters)
  · rfl

/-- The counters of all paths. -/
def allCounters (query : PdhQuery H) (tried : String → List WString)
    (entries : List (String × Nat)) : List (Counter H) :=
  entries.flatMap fun entry => query.countersOf (tried entry.1) entry.2

theorem addPaths_of_tries {tried : String → List WString} {entries : List (String × Nat)}
    (tries : ∀ entry ∈ entries, query.Tries localize (wide entry.1) (tried entry.1))
    (counters : List (Counter H)) (unavailable : List String) :
    query.addPaths localize entries (counters, unavailable) =
      some (counters ++ query.allCounters tried entries,
        unavailable ++ (entries.map (·.1)).filter fun path => !query.acceptsOne (tried path)) := by
  induction entries generalizing counters unavailable with
  | nil => simp [addPaths, allCounters]
  | cons entry entries ih =>
      obtain ⟨first, later⟩ := List.forall_mem_cons.mp tries
      have added : query.addCounter localize (wide entry.1) entry.2 counters =
          some (query.acceptsOne (tried entry.1),
            counters ++ query.countersOf (tried entry.1) entry.2) := by
        rw [addCounter_eq, tries_iff.mp first, Option.map_some]
      rw [addPaths, added, Option.bind_some]
      simp only [ih later, allCounters, List.flatMap_cons, List.append_assoc, List.map_cons,
        List.filter_cons]
      cases query.acceptsOne (tried entry.1) with
      | true => rfl
      | false => simp

theorem addPaths_tries {entries : List (String × Nat)}
    {result final : List (Counter H) × List String}
    (added : query.addPaths localize entries result = some final) :
    ∀ entry ∈ entries, ∃ tried, query.Tries localize (wide entry.1) tried := by
  induction entries generalizing result with
  | nil => exact List.forall_mem_nil _
  | cons entry entries ih =>
      obtain ⟨counters, unavailable⟩ := result
      obtain ⟨⟨one, counters'⟩, first, later⟩ := Option.bind_eq_some_iff.mp added
      rw [addCounter_eq] at first
      obtain ⟨tried, found, -⟩ := Option.map_eq_some_iff.mp first
      exact List.forall_mem_cons.mpr ⟨⟨tried, tries_iff.mpr found⟩, ih later⟩

theorem countersOf_eq_nil_iff {tried : List WString} {specIndex : Nat} :
    query.countersOf tried specIndex = [] ↔ query.acceptsOne tried = false := by
  simp [countersOf, acceptsOne]

/-- What the constructor leaves, when the paths that are tried are known. -/
theorem construct_of_tries (opened : query.openCode = 0) {tried : String → List WString}
    (tries : ∀ path ∈ paths, query.Tries localize (wide path) (tried path)) :
    query.construct localize =
      some ⟨!(query.allCounters tried paths.zipIdx).isEmpty, query.allCounters tried paths.zipIdx,
        paths.filter fun path => !query.acceptsOne (tried path)⟩ := by
  have named : paths.zipIdx.map (·.1) = paths := List.zipIdx_map_fst _ _
  have triesEach : ∀ entry ∈ paths.zipIdx,
      query.Tries localize (wide entry.1) (tried entry.1) := by
    intro entry membership
    apply tries
    rw [← named]
    exact List.mem_map_of_mem membership
  have added := addPaths_of_tries triesEach [] []
  rw [construct, if_neg (not_not_intro opened), added, named]
  rfl

/-- The collector is ready when PDH accepts a path. -/
theorem allCounters_ne_nil_iff {tried : String → List WString} :
    (!(query.allCounters tried paths.zipIdx).isEmpty) = true ↔
      ∃ path ∈ paths, query.acceptsOne (tried path) = true := by
  have named : paths.zipIdx.map (·.1) = paths := List.zipIdx_map_fst _ _
  rw [Bool.not_eq_true', ← Bool.not_eq_true, List.isEmpty_iff, allCounters,
    List.flatMap_eq_nil_iff]
  conv_rhs => rw [← named]
  simp [-List.zipIdx_map_fst, countersOf_eq_nil_iff]

/-- A constructor that stays inside its buffers has tried some paths for each of its own. -/
theorem tries_of_construct (opened : query.openCode = 0) {collector : Constructed H}
    (constructed : query.construct localize = some collector) :
    ∃ tried : String → List WString,
      ∀ path ∈ paths, query.Tries localize (wide path) (tried path) := by
  rw [construct, if_neg (not_not_intro opened)] at constructed
  obtain ⟨_, added, -⟩ := Option.map_eq_some_iff.mp constructed
  have named : paths.zipIdx.map (·.1) = paths := List.zipIdx_map_fst _ _
  have each : ∀ path ∈ paths, ∃ tried, query.Tries localize (wide path) tried := by
    intro path membership
    rw [← named] at membership
    obtain ⟨entry, inEntries, rfl⟩ := List.mem_map.mp membership
    exact addPaths_tries added entry inEntries
  choose! tried tries using each
  exact ⟨tried, tries⟩

end PdhQuery

/-! ## One tick -/

/-- The sum of the values in their order, if there are any. -/
def total : List Float → Option Float
  | [] => none
  | value :: rest => some ((value :: rest).foldl (· + ·) 0.0)

@[simp] theorem total_concat (values : List Float) (value : Float) :
    total (values ++ [value]) = some ((total values).getD 0.0 + value) := by
  cases values with
  | nil => rfl
  | cons first rest =>
      rw [List.cons_append, total, ← List.cons_append, List.foldl_concat]
      rfl

namespace PdhCollector

/-- The sum of a spec is that of the values of its counters. -/
theorem sums_counters {H : Type} (ready : Bool) (counters : List (Counter H))
    {reading : PdhReading} {value : H → Option Float}
    (reads : ∀ k counter, counters[k]? = some counter →
      reading.value k = value counter.handle) (specIndex : Nat) :
    sums ⟨ready, counters.map (·.specIndex)⟩ reading specIndex =
      total ((counters.filter (·.specIndex = specIndex)).filterMap (value ·.handle)) := by
  induction counters using List.reverseRecOn with
  | nil => rfl
  | append_singleton counters last ih =>
      have earlier := ih fun k counter found => by
        have inside := (List.getElem?_eq_some_iff.mp found).1
        exact reads k counter ((List.getElem?_append_left inside).trans found)
      have latest : reading.value counters.length = value last.handle :=
        reads counters.length last List.getElem?_concat_length
      rw [List.map_append, List.map_singleton, sums_snoc, addValue, List.length_map, latest,
        List.filter_append, List.filterMap_append]
      by_cases selected : last.specIndex = specIndex
      · subst selected
        cases read : value last.handle with
        | none => simp [earlier, read]
        | some value => simp [earlier, read, total_concat]
      · cases read : value last.handle with
        | none => simp [earlier, selected]
        | some value => simp [earlier, selected, Function.update_of_ne (Ne.symm selected)]

/-- The metrics of the specs, and the available memory. -/
theorem specMetrics_eq (sums : Nat → Option Float) :
    specMetrics sums =
      (specs.zipIdx.filterMap fun entry => (sums entry.2).map fun sum =>
        ⟨entry.1.metricId, sum * entry.1.scale, entry.1.unit⟩, (sums 2).map (· * 1.0)) := by
  have accumulate (entries : List (CounterSpec × Nat))
      (result : List MetricSample × Option Float) :
      (entries.foldl (addSpec sums) result).1 = result.1 ++
        entries.filterMap fun entry => (sums entry.2).map fun sum =>
          ⟨entry.1.metricId, sum * entry.1.scale, entry.1.unit⟩ := by
    induction entries generalizing result with
    | nil => exact (List.append_nil _).symm
    | cons entry entries ih =>
        rw [List.foldl_cons, ih]
        cases summed : sums entry.2 with
        | none => simp [addSpec, summed]
        | some sum => simp [addSpec, summed]
  have others (entries : List (CounterSpec × Nat)) (result : List MetricSample × Option Float)
      (other : ∀ entry ∈ entries, entry.1.metricId ≠ "mem.available_mb") :
      (entries.foldl (addSpec sums) result).2 = result.2 := by
    induction entries generalizing result with
    | nil => rfl
    | cons entry entries ih =>
        obtain ⟨first, later⟩ := List.forall_mem_cons.mp other
        rw [List.foldl_cons, ih _ later]
        cases summed : sums entry.2 with
        | none => simp [addSpec, summed]
        | some sum => simp [addSpec, summed, first]
  apply Prod.ext
  · exact accumulate specs.zipIdx ([], none)
  · have split : specs.zipIdx = specs.zipIdx.take 2 ++
        (⟨"mem.available_mb", "mb", 1.0, false⟩, 2) :: specs.zipIdx.drop 3 := rfl
    rw [specMetrics, split, List.foldl_append, List.foldl_cons, others _ _ (by decide)]
    have before := others (specs.zipIdx.take 2) ([], none) (by decide)
    cases summed : sums 2 with
    | none => simp [addSpec, summed, before]
    | some sum => simp [addSpec, summed]

end PdhCollector

namespace PdhQuery.Constructed

variable {H : Type} (self : Constructed H)

/-- The collector of `Collect`, which asks the handles in their order. -/
def collector : PdhCollector := ⟨self.ready, self.counters.map (·.specIndex)⟩

/-- The answers of one tick, by the counters that were added. -/
def reading (collected : Bool) (value : H → Option Float) (totalPhys : Option UInt64) :
    PdhReading where
  collected := collected
  value k := self.counters[k]?.bind fun counter => value counter.handle
  totalPhys := totalPhys

/-- `Collect`. -/
def collect (collected : Bool) (value : H → Option Float) (totalPhys : Option UInt64) :
    List MetricSample := self.collector.collect (self.reading collected value totalPhys)

variable {query : PdhQuery H} {localize : WString → Option WString}

theorem filter_countersOf (tried : List WString) (own specIndex : Nat) :
    (query.countersOf tried own).filter (·.specIndex = specIndex) =
      if own = specIndex then query.countersOf tried specIndex else [] := by
  split
  case isTrue same =>
    rw [same]
    exact List.filter_eq_self.mpr fun counter membership => by
      obtain ⟨handle, -, rfl⟩ := List.mem_map.mp membership
      exact decide_eq_true rfl
  case isFalse other =>
    refine List.filter_eq_nil_iff.mpr fun counter membership => ?_
    obtain ⟨handle, -, rfl⟩ := List.mem_map.mp membership
    rw [decide_eq_true_eq]
    exact other

/-- The counters of a spec are those of its path. -/
theorem filter_allCounters (tried : String → List WString) (names : List String)
    (specIndex : Nat) :
    (query.allCounters tried names.zipIdx).filter (·.specIndex = specIndex) =
      (names[specIndex]?).elim [] fun path => query.countersOf (tried path) specIndex := by
  induction names using List.reverseRecOn with
  | nil => rfl
  | append_singleton names last ih =>
      rw [List.zipIdx_append, allCounters, List.flatMap_append, List.filter_append,
        ← allCounters, ih]
      simp only [List.zipIdx_singleton, List.flatMap_singleton, filter_countersOf, zero_add]
      rcases Nat.lt_trichotomy specIndex names.length with before | atEnd | beyond
      · rw [List.getElem?_append_left before, if_neg before.ne', List.append_nil]
      · subst atEnd
        rw [List.getElem?_concat_length, List.getElem?_eq_none le_rfl, if_pos rfl]
        rfl
      · have outside : (names ++ [last])[specIndex]? = none :=
          List.getElem?_eq_none (by rw [List.length_append]; exact beyond)
        rw [outside, List.getElem?_eq_none beyond.le, if_neg beyond.ne]
        rfl

/-- The sum of the values of the counters of these paths. -/
def pathTotal (query : PdhQuery H) (tried : List WString) (value : H → Option Float) :
    Option Float :=
  total ((tried.filterMap query.addCounterW).filterMap value)

theorem sums_collector {tried : String → List WString} (collected : Bool)
    (counters : self.counters = query.allCounters tried paths.zipIdx)
    (value : H → Option Float) (totalPhys : Option UInt64) (specIndex : Nat) :
    self.collector.sums (self.reading collected value totalPhys) specIndex =
      (paths[specIndex]?).elim none fun path => pathTotal query (tried path) value := by
  have reads (k : Nat) (counter : Counter H) (found : self.counters[k]? = some counter) :
      (self.reading collected value totalPhys).value k = value counter.handle := by
    have read : (self.reading collected value totalPhys).value k =
        self.counters[k]?.bind fun counter => value counter.handle := rfl
    rw [read, found, Option.bind_some]
  have summed := PdhCollector.sums_counters self.ready self.counters reads specIndex
  rw [counters, filter_allCounters] at summed
  rw [collector, counters, summed]
  cases paths[specIndex]? with
  | none => rfl
  | some path =>
      rw [Option.elim_some, Option.elim_some, pathTotal, countersOf, List.filterMap_map]
      rfl

/-- The metrics of the paths, in the order of their specs. -/
def pathMetrics (query : PdhQuery H) (tried : String → List WString) (value : H → Option Float) :
    List MetricSample :=
  (specs.zip paths).filterMap fun entry =>
    (pathTotal query (tried entry.2) value).map fun sum =>
      ⟨entry.1.metricId, sum * entry.1.scale, entry.1.unit⟩

/-- The available memory. -/
def availableMb (query : PdhQuery H) (tried : String → List WString) (value : H → Option Float) :
    Option Float :=
  (pathTotal query (tried "\\Memory\\Available MBytes") value).map (· * 1.0)

theorem specMetrics_collector {tried : String → List WString} (collected : Bool)
    (counters : self.counters = query.allCounters tried paths.zipIdx)
    (value : H → Option Float) (totalPhys : Option UInt64) :
    PdhCollector.specMetrics (self.collector.sums (self.reading collected value totalPhys)) =
      (pathMetrics query tried value, availableMb query tried value) := by
  have sums := self.sums_collector collected counters value totalPhys
  have zipped : specs.zip paths = specs.zipIdx.map fun entry =>
      (entry.1, paths[entry.2]?.getD "") := rfl
  rw [PdhCollector.specMetrics_eq, pathMetrics, zipped, List.filterMap_map]
  refine Prod.ext (List.filterMap_congr fun entry membership => ?_)
    (congrArg (Option.map (· * 1.0)) (sums 2))
  have inRange : entry.2 < paths.length := (List.mem_zipIdx membership).2.1
  rw [sums entry.2, Function.comp_apply, List.getElem?_eq_getElem inRange]
  rfl

/-- A path of which PDH accepts nothing has no sum. -/
theorem pathTotal_of_refused {tried : List WString} (refused : query.acceptsOne tried = false)
    (value : H → Option Float) : pathTotal query tried value = none := by
  have noCounters : query.countersOf tried 0 = [] := countersOf_eq_nil_iff.mpr refused
  rw [countersOf, List.map_eq_nil_iff] at noCounters
  rw [pathTotal, noCounters]
  rfl

/-- A collector that is not ready has nothing to report anyway. -/
theorem collect_eq {tried : String → List WString}
    (counters : self.counters = query.allCounters tried paths.zipIdx)
    (ready : self.ready = true ↔ ∃ path ∈ paths, query.acceptsOne (tried path) = true)
    (value : H → Option Float) (totalPhys : Option UInt64) :
    self.collect true value totalPhys = pathMetrics query tried value ++
      PdhCollector.memoryMetrics (availableMb query tried value) totalPhys := by
  rw [collect, PdhCollector.collect]
  cases isReady : self.ready with
  | true =>
      have notSkipped : ¬(!self.collector.ready ||
          !(self.reading true value totalPhys).collected) = true := by
        simp [collector, reading, isReady]
      rw [if_neg notSkipped]
      simp only [self.specMetrics_collector true counters value totalPhys]
      rfl
  | false =>
      have skipped : (!self.collector.ready ||
          !(self.reading true value totalPhys).collected) = true := by
        simp [collector, isReady]
      have unread (path : String) (membership : path ∈ paths) :
          pathTotal query (tried path) value = none := by
        refine pathTotal_of_refused (Bool.not_eq_true _ ▸ fun accepted => ?_) value
        rw [ready.mpr ⟨path, membership, accepted⟩] at isReady
        cases isReady
      have noMetrics : pathMetrics query tried value = [] := by
        refine List.filterMap_eq_nil_iff.mpr fun entry membership => ?_
        rw [unread entry.2 (List.of_mem_zip membership).2]
        rfl
      rw [if_pos skipped, noMetrics, availableMb, unread _ (by decide)]
      rfl

/-- How many of the paths tried for a spec PDH accepts. -/
def acceptedCount (query : PdhQuery H) (tried : String → List WString) (specIndex : Nat) : Nat :=
  (paths[specIndex]?).elim 0 fun path => ((tried path).filterMap query.addCounterW).length

/-- Where localizing keeps the wildcards, the collector is the one created from the number
of handles alone. -/
theorem collector_eq_create {tried : String → List WString}
    (tries : ∀ path ∈ paths, query.Tries localize (wide path) (tried path))
    (wildcards : ∀ path ∈ paths, ∀ localized, localize (wide path) = some localized →
      (star ∈ localized ↔ '*' ∈ path.toList))
    (counters : self.counters = query.allCounters tried paths.zipIdx)
    (ready : self.ready = !self.counters.isEmpty) :
    self.collector = PdhCollector.create true (acceptedCount query tried) := by
  have indices : self.counters.map (·.specIndex) =
      paths.zipIdx.flatMap fun entry =>
        PdhCollector.addCounter entry.1 entry.2 (acceptedCount query tried entry.2) := by
    rw [counters, allCounters, List.map_flatMap]
    refine List.flatMap_congr fun entry membership => ?_
    have found : paths[entry.2]? = some entry.1 := List.mem_zipIdx_iff_getElem?.mp membership
    have inPaths : entry.1 ∈ paths := List.mem_of_getElem? found
    have same : (query.countersOf (tried entry.1) entry.2).map (·.specIndex) =
        List.replicate (acceptedCount query tried entry.2) entry.2 := by
      rw [countersOf, acceptedCount, found, Option.elim_some, List.map_map]
      exact List.map_const
    rw [same, PdhCollector.addCounter]
    split
    case isTrue => rfl
    case isFalse plain =>
      obtain ⟨localized, localizes, listed⟩ := tries entry.1 inPaths
      have noWildcard : star ∉ localized := by
        rw [wildcards entry.1 inPaths localized localizes]
        simpa using plain
      have atMostOne : acceptedCount query tried entry.2 ≤ 1 := by
        rcases listed with ⟨-, one⟩ | ⟨wildcard, -⟩ | ⟨wildcard, -⟩
        · rw [acceptedCount, found, Option.elim_some, one]
          exact List.length_filterMap_le _ _
        · exact absurd wildcard noWildcard
        · exact absurd wildcard noWildcard
      rw [Nat.min_eq_left atMostOne]
  have isReady : self.ready = !(self.counters.map (·.specIndex)).isEmpty := by
    rw [ready, List.isEmpty_map]
  rw [collector, isReady, indices]
  rfl

end PdhQuery.Constructed

section

variable {H : Type} (query : PdhQuery H) (towlower : WChar → WChar) (perflib : Perflib)
  (names : PerfNames)

/-- `LocalizePath` on this system. -/
def systemPath (englishPath : WString) : Option WString :=
  localizePath (localizedName towlower perflib names) englishPath

/-- The constructor stays inside its buffers exactly where every list of paths is ended by
an empty one, and then has a counter for each listed path that PDH accepts, in order. -/
theorem pdh_counters_iff (collector : PdhQuery.Constructed H) :
    query.construct (systemPath towlower perflib names) = some collector ↔
      if query.openCode ≠ 0 then collector = ⟨false, [], []⟩
      else ∃ tried : String → List WString,
        (∀ path ∈ paths,
          query.Tries (systemPath towlower perflib names) (PdhQuery.wide path) (tried path)) ∧
        (collector.ready = true ↔ ∃ path ∈ paths, query.acceptsOne (tried path) = true) ∧
        collector.counters = query.allCounters tried paths.zipIdx ∧
        collector.unavailable = paths.filter fun path => !query.acceptsOne (tried path) := by
  by_cases opened : query.openCode = 0
  case neg => rw [PdhQuery.construct, if_pos opened, if_pos opened, Option.some_inj, eq_comm]
  case pos =>
    rw [if_neg (not_not_intro opened)]
    constructor
    · intro constructed
      obtain ⟨tried, tries⟩ := PdhQuery.tries_of_construct opened constructed
      cases constructed.symm.trans (PdhQuery.construct_of_tries opened tries)
      exact ⟨tried, tries, PdhQuery.allCounters_ne_nil_iff, rfl, rfl⟩
    · rintro ⟨tried, tries, ready, counters, unavailable⟩
      have same : collector.ready = !(query.allCounters tried paths.zipIdx).isEmpty :=
        Bool.eq_iff_iff.mpr (ready.trans PdhQuery.allCounters_ne_nil_iff.symm)
      rw [PdhQuery.construct_of_tries opened tries, ← same, ← counters, ← unavailable]

/-- A tick reports for each spec the scaled sum over the paths that were tried for it, and
the memory from the available one. -/
theorem pdh_metrics {collector : PdhQuery.Constructed H} (opened : query.openCode = 0)
    (constructed : query.construct (systemPath towlower perflib names) = some collector) :
    ∃ tried : String → List WString,
      (∀ path ∈ paths,
        query.Tries (systemPath towlower perflib names) (PdhQuery.wide path) (tried path)) ∧
      ∀ value totalPhys, collector.collect true value totalPhys =
        PdhQuery.Constructed.pathMetrics query tried value ++ PdhCollector.memoryMetrics
          (PdhQuery.Constructed.availableMb query tried value) totalPhys := by
  obtain ⟨tried, tries⟩ := PdhQuery.tries_of_construct opened constructed
  cases constructed.symm.trans (PdhQuery.construct_of_tries opened tries)
  exact ⟨tried, tries, PdhQuery.Constructed.collect_eq _ rfl PdhQuery.allCounters_ne_nil_iff⟩

end

/-! ## Two engines -/

/-- A system without a name table. -/
def noPerflib : Perflib := ⟨2, 0, 0, 0, 0, [], 0⟩

def noNames : PerfNames := ⟨fun _ => 0, fun _ => 0, fun _ => [], fun _ => 0⟩

/-- PDH lists two engines for the wildcard of the fifth spec, and accepts nothing else. -/
def twoEngines : PdhQuery WString where
  openCode := 0
  sizeCode path := if path = PdhQuery.wide (paths.getD 5 "") then pdhMoreData else 0
  listSize _ := 9
  expandCode _ := 0
  expansion _ := joinStrings 0 [PdhQuery.wide "a3D", PdhQuery.wide "b3D"] ++ [0]
  addCounterW path := if path.length = 3 then some path else none

/-- The paths that are tried. -/
def enginePaths (path : String) : List WString :=
  if path = paths.getD 5 "" then [PdhQuery.wide "a3D", PdhQuery.wide "b3D"]
  else if '*' ∈ path.toList then []
  else [PdhQuery.wide path]

theorem twoEngines_tries : ∀ path ∈ paths,
    twoEngines.Tries (systemPath id noPerflib noNames) (PdhQuery.wide path)
      (enginePaths path) := by
  intro path membership
  simp only [paths, List.mem_cons, List.not_mem_nil, or_false] at membership
  rcases membership with rfl | rfl | rfl | rfl | rfl | rfl | rfl
  · exact ⟨_, rfl, .inl ⟨by decide, rfl⟩⟩
  · exact ⟨_, rfl, .inl ⟨by decide, rfl⟩⟩
  · exact ⟨_, rfl, .inl ⟨by decide, rfl⟩⟩
  · exact ⟨_, rfl, .inl ⟨by decide, rfl⟩⟩
  · exact ⟨_, rfl, .inl ⟨by decide, rfl⟩⟩
  · refine ⟨_, rfl, .inr (.inr ⟨by decide, ?_, ?_, [0], by decide⟩)⟩
    · rintro (unsized | empty | unexpanded)
      · exact unsized rfl
      · cases empty
      · exact unexpanded rfl
    · simp only [IsEntry]
      decide
  · exact ⟨_, rfl, .inr (.inl ⟨by decide, .inl (by decide), rfl⟩)⟩

/-- Their utilization is one metric. -/
theorem pdh_metrics_two_engines : ∃ collector,
    twoEngines.construct (systemPath id noPerflib noNames) = some collector ∧
      collector.collect true
          (fun path => if path = PdhQuery.wide "a3D" then some 1.5 else some 2.0) none =
        [⟨"gpu.util_pct", (0.0 + 1.5 + 2.0) * 1.0, "percent"⟩] := by
  have constructed := PdhQuery.construct_of_tries rfl twoEngines_tries
  obtain ⟨tried, tries, reported⟩ :=
    pdh_metrics twoEngines id noPerflib noNames rfl constructed
  have same : ∀ path ∈ paths, tried path = enginePaths path := fun path membership =>
    Option.some.inj ((PdhQuery.tries_iff.mp (tries path membership)).symm.trans
      (PdhQuery.tries_iff.mp (twoEngines_tries path membership)))
  have metrics : PdhQuery.Constructed.pathMetrics twoEngines tried
        (fun path => if path = PdhQuery.wide "a3D" then some 1.5 else some 2.0) =
      PdhQuery.Constructed.pathMetrics twoEngines enginePaths
        (fun path => if path = PdhQuery.wide "a3D" then some 1.5 else some 2.0) :=
    List.filterMap_congr fun entry membership => by
      rw [same entry.2 (List.of_mem_zip membership).2]
  have noMemory (available : Option Float) : PdhCollector.memoryMetrics available none = [] := by
    cases available with
    | none => rfl
    | some available => rfl
  refine ⟨_, constructed, (reported _ none).trans ?_⟩
  rw [metrics, noMemory]
  rfl

end HWPanel.Collectors
