import Mathlib.Algebra.BigOperators.Group.Finset.Piecewise
import Mathlib.Data.List.Forall2
import ObjectQuery.Proofs.Detector.FrameKeys

/-!
# What a detection file replays

A detection file is accepted exactly if each of its keys denotes a frame and every class number has a name,
in whatever order its lists are taken. Of the lists under the keys that denote a frame, the one that is taken
last is replayed. So nothing is lost, whatever the order, exactly if of two keys that denote one frame neither
lists a detection (`replayed_of_file`); a frame that is written in two ways loses detections
(`written_twice`).
-/

namespace ObjectQuery

namespace DetectionTable

instance (key : String) (frame : Nat) : Decidable (Denotes key frame) :=
  decidable_of_iff _ frameOfKey?_eq_some_iff

/-- A table with the lists of a file added in their order. -/
def addAll (table : DetectionTable) (lists : Keyed String (List Detection)) :
    Except ServiceError DetectionTable :=
  lists.foldlM (fun table entry => table.addList entry.1 entry.2) table

/-- A table of the lists of a file, taken in their order. -/
def collect (classNames : List String) (lists : Keyed String (List Detection)) :
    Except ServiceError DetectionTable :=
  addAll ⟨classNames, []⟩ lists

/-- The lists under the keys that denote a frame. -/
def listsOf (lists : Keyed String (List Detection)) (frame : Nat) : List (List Detection) :=
  (lists.filter fun entry => decide (Denotes entry.1 frame)).map Prod.snd

/-- A list under a key that denotes a frame, with numbers of classes that have names. -/
def Fits (classNames : List String) (entry : String × List Detection) : Prop :=
  (∃ frame, Denotes entry.1 frame) ∧ ∀ detection ∈ entry.2, detection.classId < classNames.length

section Adding

variable {classNames : List String} {entry : String × List Detection} {table next : DetectionTable}
  {lists order : Keyed String (List Detection)} {frame : Nat}

theorem denotes_unique {key : String} {other : Nat} (denotes : Denotes key frame)
    (also : Denotes key other) : frame = other := by
  rw [← frameOfKey?_eq_some_iff] at denotes also
  exact Option.some.inj (denotes.symm.trans also)

@[simp] theorem listsOf_nil (frame : Nat) : listsOf [] frame = [] := rfl

theorem listsOf_cons (entry : String × List Detection) (lists : Keyed String (List Detection))
    (frame : Nat) : listsOf (entry :: lists) frame =
      if Denotes entry.1 frame then entry.2 :: listsOf lists frame else listsOf lists frame := by
  by_cases denotes : Denotes entry.1 frame <;> simp [listsOf, denotes]

/-- A list is added exactly if it fits, and replaces what was there for its frame. -/
theorem addList_eq_ok : table.addList entry.1 entry.2 = .ok next ↔
    ∃ frame, Denotes entry.1 frame ∧
      (∀ detection ∈ entry.2, detection.classId < table.classNames.length) ∧
      next = { table with frames := table.frames.put frame entry.2 } := by
  unfold addList
  cases read : frameOfKey? entry.1 with
  | none =>
      refine iff_of_false (by simp) ?_
      rintro ⟨frame, denotes, _⟩
      rw [← frameOfKey?_eq_some_iff, read] at denotes
      exact absurd denotes (by simp)
  | some frame =>
      have denotes := frameOfKey?_eq_some_iff.mp read
      dsimp only
      cases outside : entry.2.find? fun detection => decide (table.classNames.length ≤ detection.classId) with
      | some detection =>
          refine iff_of_false (by simp) ?_
          rintro ⟨_, _, inside, _⟩
          have found := List.find?_some outside
          have bound := inside detection (List.mem_of_find?_eq_some outside)
          simp at found
          omega
      | none =>
          have inside : ∀ detection ∈ entry.2, detection.classId < table.classNames.length := by
            simpa using List.find?_eq_none.mp outside
          constructor
          · intro added
            exact ⟨frame, denotes, inside, (Except.ok.inj added).symm⟩
          · rintro ⟨other, also, _, rfl⟩
            rw [denotes_unique also denotes]

theorem addAll_cons_of_ok (lists : Keyed String (List Detection))
    (added : table.addList entry.1 entry.2 = .ok next) :
    table.addAll (entry :: lists) = next.addAll lists := by
  rw [addAll, List.foldlM_cons, bind_of_eq_ok added, addAll]

theorem exists_of_addAll_cons {last : DetectionTable} (added : table.addAll (entry :: lists) = .ok last) :
    ∃ next, table.addList entry.1 entry.2 = .ok next ∧ next.addAll lists = .ok last := by
  rw [addAll, List.foldlM_cons] at added
  exact exists_of_bind_eq_ok added

/-- Lists are added exactly if they all fit. -/
theorem addAll_isOk_iff : (∃ last, table.addAll lists = .ok last) ↔
    ∀ entry ∈ lists, Fits table.classNames entry := by
  induction lists generalizing table with
  | nil => exact iff_of_true ⟨table, rfl⟩ (by simp)
  | cons entry lists inductionHypothesis =>
      rw [List.forall_mem_cons]
      constructor
      · rintro ⟨last, added⟩
        obtain ⟨next, first, rest⟩ := exists_of_addAll_cons added
        obtain ⟨frame, denotes, inside, rfl⟩ := addList_eq_ok.mp first
        have fit := inductionHypothesis.mp ⟨last, rest⟩
        exact ⟨⟨⟨frame, denotes⟩, inside⟩, fit⟩
      · rintro ⟨⟨⟨frame, denotes⟩, inside⟩, fit⟩
        rw [addAll_cons_of_ok lists (addList_eq_ok.mpr ⟨frame, denotes, inside, rfl⟩)]
        exact inductionHypothesis.mpr fit

/-- The list for a frame that is added last is the one that is found. -/
theorem find?_addAll {last : DetectionTable} (added : table.addAll lists = .ok last) (frame : Nat) :
    last.frames.find? frame = (listsOf lists frame).getLast?.or (table.frames.find? frame) := by
  induction lists generalizing table with
  | nil =>
      obtain rfl : table = last := Except.ok.inj added
      rfl
  | cons entry lists inductionHypothesis =>
      obtain ⟨next, first, rest⟩ := exists_of_addAll_cons added
      obtain ⟨own, denotes, _, rfl⟩ := addList_eq_ok.mp first
      rw [inductionHypothesis rest, listsOf_cons, Keyed.find?_put]
      by_cases same : own = frame
      · subst same
        rw [if_pos rfl, if_pos denotes, List.getLast?_cons]
        cases (listsOf lists own).getLast? <;> rfl
      · rw [if_neg same, if_neg fun also => same (denotes_unique denotes also)]

end Adding

/-! ## Taking the lists of a file in any order -/

section Order

variable {classNames : List String} {table : DetectionTable}
  {lists order : Keyed String (List Detection)}

theorem detectionsOf_collect (collected : collect classNames order = .ok table) (frame : Nat) :
    table.detectionsOf frame = (listsOf order frame).getLast?.getD [] := by
  rw [detectionsOf, find?_addAll collected, Keyed.find?_nil, Option.or_none]

theorem infer_detector (table : DetectionTable) (frame : Nat) (picture : Option Bitmap) :
    table.detector.infer frame picture = .ok (table.detectionsOf frame) := rfl

theorem perm_listsOf (perm : order.Perm lists) (frame : Nat) :
    (listsOf order frame).Perm (listsOf lists frame) := (perm.filter _).map Prod.snd

/-- Where all keys denote frames, each list is one of those of some frame. -/
theorem sum_listsOf (denotes : ∀ entry ∈ lists, ∃ frame, Denotes entry.1 frame) :
    ∑ frame ∈ Finset.range frameBound, (listsOf lists frame).flatten.length =
      (lists.flatMap Prod.snd).length := by
  induction lists with
  | nil => simp
  | cons entry lists inductionHypothesis =>
      obtain ⟨⟨own, number⟩, rest⟩ := List.forall_mem_cons.mp denotes
      have added (frame : Nat) : (listsOf (entry :: lists) frame).flatten.length =
          (if own = frame then entry.2.length else 0) + (listsOf lists frame).flatten.length := by
        rw [listsOf_cons]
        by_cases same : own = frame
        · subst same
          simp [number]
        · have other : ¬ Denotes entry.1 frame := fun also => same (denotes_unique number also)
          simp [same, other]
      rw [Finset.sum_congr rfl fun frame _ => added frame, Finset.sum_add_distrib,
        inductionHypothesis rest, Finset.sum_ite_eq, if_pos (Finset.mem_range.mpr number.2),
        List.flatMap_cons, List.length_append]

/-- Nothing that is listed is lost. -/
structure Complete (lists : Keyed String (List Detection)) (table : DetectionTable) : Prop where
  perm : ∀ frame, (table.detectionsOf frame).Perm (listsOf lists frame).flatten
  total : ∑ frame ∈ Finset.range frameBound, (table.detectionsOf frame).length =
    (lists.flatMap Prod.snd).length

/-- No two keys denote one frame, but for those with empty lists. -/
def Apart (lists : Keyed String (List Detection)) : Prop :=
  lists.Pairwise fun first second => ∀ frame, Denotes first.1 frame → Denotes second.1 frame →
    first.2 = [] ∧ second.2 = []

theorem Apart.of_perm (apart : Apart lists) (perm : order.Perm lists) : Apart order :=
  perm.symm.pairwise apart fun empty frame denotes also => (empty frame also denotes).symm

/-- Where all lists but one are empty, the last one stands for all of them. -/
theorem getLast?_eq_flatten {found : List (List Detection)}
    (empty : found.Pairwise fun first second => first = [] ∧ second = []) :
    found.getLast?.getD [] = found.flatten := by
  cases found using List.reverseRecOn with
  | nil => rfl
  | append_singleton front last =>
      rw [List.getLast?_concat, List.flatten_append, List.flatten_singleton, Option.getD_some]
      have nothing : front.flatten = [] := by
        refine List.flatten_eq_nil_iff.mpr fun list member => ?_
        exact ((List.pairwise_append.mp empty).2.2 list member last (by simp)).1
      rw [nothing, List.nil_append]

theorem flatten_eq_of_perm {found other : List (List Detection)}
    (empty : found.Pairwise fun first second => first = [] ∧ second = []) (perm : other.Perm found) :
    other.flatten = found.flatten := by
  match found, empty with
  | [], _ => rw [perm.eq_nil]
  | [only], _ => rw [List.perm_singleton.mp perm]
  | first :: second :: rest, empty =>
      have both := (List.pairwise_cons.mp empty).1
      have nothing : (first :: second :: rest).flatten = [] := by
        refine List.flatten_eq_nil_iff.mpr (List.forall_mem_cons.mpr ⟨?_, fun list member => ?_⟩)
        · exact (both second List.mem_cons_self).1
        · exact (both list member).2
      rw [nothing]
      exact (nothing ▸ perm.flatten).eq_nil

theorem length_getLast?_le (found : List (List Detection)) :
    (found.getLast?.getD []).length ≤ found.flatten.length := by
  cases found using List.reverseRecOn with
  | nil => exact Nat.le_refl _
  | append_singleton front last => simp

theorem Apart.pairwise_listsOf (apart : Apart lists) (frame : Nat) :
    (listsOf lists frame).Pairwise fun first second => first = [] ∧ second = [] := by
  refine List.pairwise_map.mpr (List.pairwise_filter.mpr ?_)
  refine apart.imp fun empty first second => ?_
  exact empty frame (of_decide_eq_true first) (of_decide_eq_true second)

/-- What is replayed does not depend on the order in which the lists are taken. -/
theorem Apart.detectionsOf_eq (apart : Apart lists) (perm : order.Perm lists)
    (collected : collect classNames order = .ok table) (frame : Nat) :
    table.detectionsOf frame = (listsOf lists frame).flatten := by
  rw [detectionsOf_collect collected, getLast?_eq_flatten ((apart.of_perm perm).pairwise_listsOf frame)]
  exact flatten_eq_of_perm (apart.pairwise_listsOf frame) (perm_listsOf perm frame)

theorem Apart.complete (apart : Apart lists) (perm : order.Perm lists)
    (denotes : ∀ entry ∈ lists, ∃ frame, Denotes entry.1 frame)
    (collected : collect classNames order = .ok table) : Complete lists table := by
  have same := apart.detectionsOf_eq perm collected
  refine ⟨fun frame => .of_eq (same frame), ?_⟩
  rw [← sum_listsOf denotes]
  exact Finset.sum_congr rfl fun frame _ => congrArg List.length (same frame)

/-- Of two keys that denote one frame the list of the one that is taken first is lost. -/
theorem empty_of_complete {first second : String × List Detection} {rest : Keyed String (List Detection)}
    {frame : Nat} (denotes : Denotes first.1 frame) (also : Denotes second.1 frame)
    (perm : (first :: second :: rest).Perm lists)
    (collected : collect classNames (first :: second :: rest) = .ok table)
    (complete : Complete lists table) : first.2 = [] := by
  have count := (complete.perm frame).length_eq
  rw [← (perm_listsOf perm frame).flatten.length_eq, detectionsOf_collect collected, listsOf_cons,
    if_pos denotes, listsOf_cons, if_pos also, List.getLast?_cons_cons, List.flatten_cons,
    List.length_append] at count
  have atMost := length_getLast?_le (second.2 :: listsOf rest frame)
  exact List.eq_nil_of_length_eq_zero (by omega)

/-- Nothing is lost in any order exactly if no two keys denote one frame, but for those with empty lists. -/
theorem complete_iff_apart (fit : ∀ entry ∈ lists, Fits classNames entry) :
    (∀ order, order.Perm lists → ∀ table, collect classNames order = .ok table → Complete lists table) ↔
      Apart lists := by
  constructor
  · intro complete
    have emptyFirst {first second : String × List Detection} {rest : Keyed String (List Detection)}
        {frame : Nat} (denotes : Denotes first.1 frame) (also : Denotes second.1 frame)
        (perm : (first :: second :: rest).Perm lists) : first.2 = [] := by
      obtain ⟨table, collected⟩ : ∃ table, collect classNames (first :: second :: rest) = .ok table :=
        addAll_isOk_iff.mpr fun entry member => fit entry (perm.subset member)
      exact empty_of_complete denotes also perm collected (complete _ perm table collected)
    refine List.pairwise_iff_forall_sublist.mpr fun {first second} within frame denotes also => ?_
    obtain ⟨rest, perm⟩ := within.exists_perm_append
    have swapped : (second :: first :: rest).Perm lists := (List.Perm.swap first second rest).trans perm.symm
    exact ⟨emptyFirst denotes also perm.symm, emptyFirst also denotes swapped⟩
  · intro apart order perm table collected
    exact apart.complete perm (fun entry member => (fit entry member).1) collected

end Order

/-! ## A file -/

/-- A member of the object of a detection file and what it lists. -/
def Lists (member : String × WrittenValue) (entry : String × List Detection) : Prop :=
  member.1 = entry.1 ∧ member.2.list? readDetection? = some entry.2

/-- A text that is an object of lists of detections, no key of which is written twice. -/
structure IsFile (content : String) (lists : Keyed String (List Detection)) : Prop where
  written : ∃ members, Json.written? content = some (.object members) ∧
    List.Forall₂ Lists members lists
  distinct : lists.keys.Nodup

theorem readLists?_of_lists {members : Keyed String WrittenValue}
    {lists : Keyed String (List Detection)} (listed : List.Forall₂ Lists members lists)
    (distinct : lists.keys.Nodup) : readLists? (.object members) = some lists := by
  have reads (earlier : Keyed String (List Detection)) (apart : (earlier ++ lists).keys.Nodup) :
      members.foldlM (fun lists member =>
        (member.2.list? readDetection?).map fun detections => lists.put member.1 detections) earlier =
          some (earlier ++ lists) := by
    clear distinct
    induction listed generalizing earlier with
    | nil =>
        rw [List.append_nil]
        rfl
    | @cons member entry members lists first _ inductionHypothesis =>
        have absent : entry.1 ∉ earlier.keys := by
          rw [Keyed.keys, List.map_append] at apart
          exact fun present => List.disjoint_of_nodup_append apart present List.mem_cons_self
        have joined : earlier ++ entry :: lists = earlier.put entry.1 entry.2 ++ lists := by
          rw [Keyed.put_of_not_mem absent, List.append_assoc]
          rfl
        rw [joined] at apart ⊢
        rw [List.foldlM_cons, first.1, first.2]
        exact inductionHypothesis _ apart
  exact reads [] distinct

section File

variable {content : String} {lists : Keyed String (List Detection)}

theorem IsFile.read (file : IsFile content lists) :
    Json.written? content >>= readLists? = some lists := by
  obtain ⟨members, written, listed⟩ := file.written
  rw [written]
  exact readLists?_of_lists listed file.distinct

theorem IsFile.ofText_eq (file : IsFile content lists) (classNames : List String) :
    ofText content classNames = collect classNames lists := by
  rw [ofText, file.read]
  rfl

/-- Whether a text is an object of lists of detections, no key of which is written twice. -/
def isFile (content : String) : Bool :=
  match Json.written? content with
  | some (.object members) =>
      decide (Keyed.keys members).Nodup && members.all fun member => (member.2.list? readDetection?).isSome
  | _ => false

theorem Lists.keys_eq {members : Keyed String WrittenValue}
    (listed : List.Forall₂ Lists members lists) : lists.keys = members.keys := by
  induction listed with
  | nil => rfl
  | cons first _ inductionHypothesis => exact congrArg₂ List.cons first.1.symm inductionHypothesis

theorem exists_isFile (written : isFile content = true) : ∃ lists, IsFile content lists := by
  unfold isFile at written
  split at written
  case h_2 => exact absurd written (by decide)
  case h_1 members eq =>
    obtain ⟨distinct, readable⟩ := Bool.and_eq_true_iff.mp written
    have listed : ∃ lists, List.Forall₂ Lists members lists := by
      clear eq written distinct
      induction members with
      | nil => exact ⟨[], .nil⟩
      | cons member members inductionHypothesis =>
          obtain ⟨first, rest⟩ := Bool.and_eq_true_iff.mp (List.all_cons ▸ readable)
          obtain ⟨detections, read⟩ := Option.isSome_iff_exists.mp first
          obtain ⟨lists, listed⟩ := inductionHypothesis rest
          exact ⟨(member.1, detections) :: lists, .cons ⟨rfl, read⟩ listed⟩
    obtain ⟨lists, listed⟩ := listed
    exact ⟨lists, ⟨members, eq, listed⟩, Lists.keys_eq listed ▸ of_decide_eq_true distinct⟩

/-- What becomes of the lists of a file, in whatever order they are taken. -/
structure Replays (classNames : List String) (lists : Keyed String (List Detection)) : Prop where
  accepted : ∀ order, order.Perm lists →
    ((∃ table, collect classNames order = .ok table) ↔ ∀ entry ∈ lists, Fits classNames entry)
  replayed : ∀ order, order.Perm lists → ∀ table, collect classNames order = .ok table →
    ∀ frame picture, table.detector.infer frame picture =
      .ok ((listsOf order frame).getLast?.getD [])
  complete : (∀ entry ∈ lists, Fits classNames entry) →
    ((∀ order, order.Perm lists → ∀ table, collect classNames order = .ok table →
      Complete lists table) ↔ Apart lists)
  sameInAnyOrder : Apart lists → ∀ order, order.Perm lists → ∀ table,
    collect classNames order = .ok table → ∀ frame,
      table.detectionsOf frame = (listsOf lists frame).flatten

/-- A detection file is accepted exactly if each key denotes a frame and each class number has a name. All
that it lists is replayed, whatever the order of its keys, exactly if no two keys denote one frame, but for
those with empty lists; of two keys that do, the list that is taken last is replayed. -/
theorem replayed_of_file (file : IsFile content lists) (classNames : List String) :
    ofText content classNames = collect classNames lists ∧ Replays classNames lists := by
  refine ⟨file.ofText_eq classNames, ?_, ?_, complete_iff_apart, ?_⟩
  · intro order perm
    have same : (∀ entry ∈ order, Fits classNames entry) ↔ ∀ entry ∈ lists, Fits classNames entry :=
      forall_congr' fun entry => imp_congr_left perm.mem_iff
    exact addAll_isOk_iff.trans same
  · intro order _ table collected frame picture
    rw [infer_detector, detectionsOf_collect collected]
  · intro apart order perm table collected
    exact apart.detectionsOf_eq perm collected

/-- A file with two frames, the first of them written with blanks and a plus sign. -/
def signed : String :=
  "\x7b\" +1 \": [\x7b\"tlbr\": [0, 0, 10, 20], \"score\": 0.5, \"class_id\": 0\x7d], \"2\": []\x7d"

theorem replayed_of_file_signed : ∃ lists, IsFile signed lists ∧
    ofText signed ["person"] = collect ["person"] lists ∧ Replays ["person"] lists := by
  obtain ⟨lists, file⟩ : ∃ lists, IsFile signed lists := exists_isFile (by decide +kernel)
  exact ⟨lists, file, replayed_of_file file ["person"]⟩

/-- A file with two keys for the first frame, which list the same detection. -/
def twice : String :=
  "\x7b\"1\": [\x7b\"tlbr\": [0, 0, 10, 20], \"score\": 0.5, \"class_id\": 0\x7d], " ++
    "\"01\": [\x7b\"tlbr\": [0, 0, 10, 20], \"score\": 0.5, \"class_id\": 0\x7d]\x7d"

/-- Of two detections for a frame that is written in two ways one is lost without an error, whichever of the
lists is taken first. -/
theorem written_twice : ∃ lists, IsFile twice lists ∧
    ofText twice ["person"] = collect ["person"] lists ∧ (listsOf lists 1).flatten.length = 2 ∧
      ∀ order, order.Perm lists → ∃ table, collect ["person"] order = .ok table ∧
        (table.detectionsOf 1).length = 1 := by
  obtain ⟨lists, file⟩ : ∃ lists, IsFile twice lists := exists_isFile (by decide +kernel)
  have accepted : ∃ last, collect ["person"] lists = .ok last := by
    have evaluated : (ofText twice ["person"]).toOption.map frameCount = some 1 := by decide +kernel
    obtain ⟨last, found, _⟩ := Option.map_eq_some_iff.mp evaluated
    exact ⟨last, file.ofText_eq _ ▸ eq_ok_of_toOption found⟩
  have lengths : (listsOf lists 1).map List.length = [1, 1] := by
    have evaluated : ((Json.written? twice >>= readLists?).map fun lists =>
        (listsOf lists 1).map List.length) = some [1, 1] := by decide +kernel
    rw [file.read] at evaluated
    exact Option.some.inj evaluated
  refine ⟨lists, file, file.ofText_eq _, by rw [List.length_flatten, lengths]; rfl, fun order perm => ?_⟩
  obtain ⟨table, collected⟩ : ∃ table, collect ["person"] order = .ok table :=
    addAll_isOk_iff.mpr fun entry member => addAll_isOk_iff.mp accepted entry (perm.subset member)
  refine ⟨table, collected, ?_⟩
  have one : ∀ list ∈ listsOf order 1, list.length = 1 := by
    intro list member
    have length : list.length ∈ (listsOf lists 1).map List.length :=
      List.mem_map_of_mem ((perm_listsOf perm 1).subset member)
    rw [lengths] at length
    simpa using length
  rw [detectionsOf_collect collected]
  cases last : (listsOf order 1).getLast? with
  | none =>
      have count := ((perm_listsOf perm 1).map List.length).length_eq
      rw [List.getLast?_eq_none_iff.mp last, lengths] at count
      exact absurd count (by decide)
  | some list => exact one list (List.mem_of_getLast? last)

end File

end DetectionTable

end ObjectQuery
