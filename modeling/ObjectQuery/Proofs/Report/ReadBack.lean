import ObjectQuery.Proofs.Json.Ordered
import ObjectQuery.Proofs.Run.Calls

/-!
# Reports read back

A report is written as one JSON object, in which the lists of objects stand beside the number of the frame
and the counts. It is read back as it was unless a type bears one of the three names that are kept for
these (`FrameReport.ofJson?_toJson`); then it cannot be read at all (`ofJson?_of_reserved`). A type may be
called anything, so both happen.
-/

namespace ObjectQuery

namespace FrameReport

/-- The names of the members that are not object lists. -/
def reservedNames : List String := [frameIdName, objectCountName, totalCountName]

variable {report : FrameReport} {entries : List (String × Json)} {name : String}

/-! ## Members by name -/

theorem membersNamed_append (entries more : List (String × Json)) (name : String) :
    membersNamed (entries ++ more) name = membersNamed entries name ++ membersNamed more name := by
  unfold membersNamed
  rw [List.filter_append, List.map_append]

theorem membersNamed_of_absent (absent : name ∉ entries.map Prod.fst) :
    membersNamed entries name = [] := by
  unfold membersNamed
  rw [List.filter_eq_nil_iff.mpr, List.map_nil]
  intro entry member same
  exact absent (of_decide_eq_true same ▸ List.mem_map_of_mem member)

theorem membersNamed_countMember (name other : String) (count : Option Nat) :
    membersNamed (countMember name count) other =
      if name = other then count.toList.map fun count => .integer count else [] := by
  cases count with
  | none => simp [countMember, membersNamed]
  | some count => by_cases same : name = other <;> simp [countMember, membersNamed, same]

/-- The lists of objects as members. -/
def listMembers (lists : Keyed String (List ObjectReport)) : List (String × Json) :=
  lists.map fun entry => (entry.1, .array (entry.2.map .object))

theorem names_listMembers (lists : Keyed String (List ObjectReport)) :
    (listMembers lists).map Prod.fst = lists.keys := by
  unfold listMembers Keyed.keys
  rw [List.map_map]
  rfl

/-- The members of a report. -/
def members (report : FrameReport) : List (String × Json) :=
  (frameIdName, .integer report.frameId) :: listMembers report.objects ++
    countMember objectCountName report.objectCount ++ countMember totalCountName report.totalCount

theorem toJson_eq (report : FrameReport) : report.toJson = .object report.members := rfl

theorem membersNamed_members (report : FrameReport) (name : String) :
    membersNamed report.members name =
      (if frameIdName = name then [.integer report.frameId] else []) ++
        membersNamed (listMembers report.objects) name ++
          (if objectCountName = name then report.objectCount.toList.map fun count => .integer count
            else []) ++
            (if totalCountName = name then report.totalCount.toList.map fun count => .integer count
              else []) := by
  unfold members
  rw [membersNamed_append, membersNamed_append, membersNamed_countMember, membersNamed_countMember]
  congr 2
  by_cases same : frameIdName = name <;> simp [membersNamed, same]

/-- No type bears a name that is kept for something else. -/
def Free (report : FrameReport) : Prop := ∀ name ∈ report.objects.keys, name ∉ reservedNames

theorem Free.membersNamed_eq (free : report.Free) (reserved : name ∈ reservedNames) :
    membersNamed (listMembers report.objects) name = [] := by
  refine membersNamed_of_absent fun member => ?_
  rw [names_listMembers] at member
  exact free name member reserved

/-- The names of the members are different. -/
theorem Free.nodup_names (free : report.Free) (once : report.objects.keys.Nodup) :
    (report.members.map Prod.fst).Nodup := by
  have counted (name : String) (count : Option Nat) :
      ((countMember name count).map Prod.fst).Sublist [name] := by
    cases count with
    | none => exact List.nil_sublist _
    | some count => exact List.Sublist.refl _
  have apart : (report.objects.keys ++ reservedNames).Nodup :=
    List.nodup_append.mpr ⟨once, by decide, fun name member other reserved same =>
      free name member (same ▸ reserved)⟩
  have whole : (frameIdName :: (report.objects.keys ++ [objectCountName, totalCountName])).Nodup :=
    List.perm_middle.nodup_iff.mp apart
  refine whole.sublist ?_
  unfold members
  rw [List.map_append, List.map_append, List.map_cons, names_listMembers, List.append_assoc,
    List.cons_append]
  exact ((List.Sublist.refl _).append ((counted _ _).append (counted _ _))).cons_cons frameIdName

theorem ordered_of_members
    (ordered : ∀ entry ∈ report.objects, ∀ object ∈ entry.2, (Json.object object).Ordered) :
    ∀ member ∈ report.members, member.2.Ordered := by
  have counted (name : String) (count : Option Nat) :
      ∀ member ∈ countMember name count, member.2.Ordered := by
    cases count <;> simp [countMember, Json.Ordered]
  intro member listed
  rcases List.mem_append.mp listed with listed | listed
  · rcases List.mem_append.mp listed with listed | listed
    · rcases List.mem_cons.mp listed with rfl | listed
      · simp [Json.Ordered]
      · obtain ⟨entry, named, rfl⟩ := List.mem_map.mp listed
        rw [Json.Ordered, Json.orderedItems_iff]
        intro item among
        obtain ⟨object, told, rfl⟩ := List.mem_map.mp among
        exact ordered entry named object told
    · exact counted _ _ member listed
  · exact counted _ _ member listed

/-! ## Reading -/

theorem natural?_integer (count : Nat) : (Json.integer count).natural? = some count := by
  simp [Json.natural?]

theorem readCount?_of_named {count : Option Nat}
    (named : membersNamed entries name = count.toList.map fun count => .integer count) :
    readCount? entries name = some count := by
  unfold readCount?
  rw [named]
  cases count with
  | none => rfl
  | some count => exact congrArg (Option.map some) (natural?_integer count)

theorem readObject?_object {object : ObjectReport} (ordered : (Json.object object).Ordered) :
    readObject? (.object object) = some object := by
  rw [readObject?, Json.sorted_of_ordered _ ordered]

theorem readObjects?_objects {objects : List ObjectReport}
    (ordered : ∀ object ∈ objects, (Json.object object).Ordered) :
    readObjects? (.array (objects.map .object)) = some objects := by
  change (objects.map Json.object).mapM readObject? = some objects
  induction objects with
  | nil => rfl
  | cons object rest inductionHypothesis =>
      have later := inductionHypothesis fun other member => ordered other (List.mem_cons_of_mem _ member)
      rw [List.map_cons, List.mapM_cons, readObject?_object (ordered object List.mem_cons_self), later]
      rfl

/-- The lists with one more of them. -/
def addList? (lists : Keyed String (List ObjectReport)) (entry : String × Json) :
    Option (Keyed String (List ObjectReport)) :=
  (readObjects? entry.2).map fun objects => lists.putSorted entry.1 objects

theorem readLists?_eq (entries : List (String × Json)) :
    readLists? entries =
      (entries.filter fun entry => !reservedNames.contains entry.1).foldlM addList? [] := rfl

theorem foldlM_addList? {lists : Keyed String (List ObjectReport)}
    (ordered : ∀ entry ∈ lists, ∀ object ∈ entry.2, (Json.object object).Ordered)
    {done : Keyed String (List ObjectReport)} (ascending : (done ++ lists).Ascending) :
    (listMembers lists).foldlM addList? done = some (done ++ lists) := by
  induction lists generalizing done with
  | nil => rw [List.append_nil]; rfl
  | cons entry rest inductionHypothesis =>
      have last : ∀ other ∈ Keyed.keys done, other < entry.1 := fun other member => by
        rw [Keyed.Ascending, Keyed.keys, List.map_append] at ascending
        exact (List.pairwise_append.mp ascending).2.2 other member entry.1 List.mem_cons_self
      have split : done ++ entry :: rest = done ++ [entry] ++ rest := by simp
      have added : addList? done (entry.1, .array (entry.2.map .object)) = some (done ++ [entry]) := by
        rw [addList?, readObjects?_objects (ordered entry List.mem_cons_self), Option.map_some,
          Keyed.putSorted_of_last last]
      change (addList? done (entry.1, .array (entry.2.map .object)) >>= fun done =>
        (listMembers rest).foldlM addList? done) = _
      rw [added, split]
      exact inductionHypothesis (fun other member => ordered other (List.mem_cons_of_mem _ member))
        (split ▸ ascending)

theorem Free.filter_members (free : report.Free) :
    (report.members.filter fun entry => !reservedNames.contains entry.1) =
      listMembers report.objects := by
  have kept : ((listMembers report.objects).filter fun entry => !reservedNames.contains entry.1) =
      listMembers report.objects := by
    refine List.filter_eq_self.mpr fun entry member => ?_
    have named : entry.1 ∈ report.objects.keys :=
      names_listMembers report.objects ▸ List.mem_map_of_mem member
    simpa using free entry.1 named
  have dropped (name : String) (reserved : name ∈ reservedNames) (count : Option Nat) :
      ((countMember name count).filter fun entry => !reservedNames.contains entry.1) = [] := by
    cases count <;> simp [countMember, reserved]
  have reserved : reservedNames.contains frameIdName = true := by decide
  unfold members
  rw [List.filter_append, List.filter_append, dropped _ (by decide), dropped _ (by decide),
    List.filter_cons, reserved, List.append_nil, List.append_nil]
  exact kept

/-- A report without reserved names is read back as it was. -/
theorem ofJson?_toJson (free : report.Free) (ascending : report.objects.Ascending)
    (ordered : ∀ entry ∈ report.objects, ∀ object ∈ entry.2, (Json.object object).Ordered) :
    ofJson? report.toJson = some report := by
  have frameId : readNatural? report.members frameIdName = some report.frameId := by
    unfold readNatural?
    rw [membersNamed_members, free.membersNamed_eq (by decide)]
    exact natural?_integer report.frameId
  have objectCount : readCount? report.members objectCountName = some report.objectCount := by
    refine readCount?_of_named ?_
    rw [membersNamed_members, free.membersNamed_eq (by decide)]
    simp [frameIdName, objectCountName, totalCountName]
  have totalCount : readCount? report.members totalCountName = some report.totalCount := by
    refine readCount?_of_named ?_
    rw [membersNamed_members, free.membersNamed_eq (by decide)]
    simp [frameIdName, objectCountName, totalCountName]
  have objects : readLists? report.members = some report.objects := by
    rw [readLists?_eq, free.filter_members]
    exact foldlM_addList? ordered ascending
  rw [toJson_eq, ofJson?, frameId, objectCount, totalCount, objects]
  rfl

/-! ## Reserved names -/

theorem readNatural?_of_array {items : List Json} (member : .array items ∈ membersNamed entries name) :
    readNatural? entries name = none := by
  unfold readNatural?
  split
  · rename_i named
    rw [named] at member
    rw [← List.mem_singleton.mp member]
    rfl
  · rfl

theorem readCount?_of_array {items : List Json} (member : .array items ∈ membersNamed entries name) :
    readCount? entries name = none := by
  unfold readCount?
  split
  · rename_i named
    exact absurd (named ▸ member) List.not_mem_nil
  · rename_i named
    rw [named] at member
    exact absurd (List.mem_singleton.mp member) (by simp)
  · rename_i named
    rw [named] at member
    rw [← List.mem_singleton.mp member]
    rfl
  · rfl

/-- A report with a reserved name cannot be read. -/
theorem ofJson?_of_reserved (bears : name ∈ report.objects.keys) (reserved : name ∈ reservedNames) :
    ofJson? report.toJson = none := by
  obtain ⟨entry, listed, rfl⟩ := List.mem_map.mp bears
  have member : .array (entry.2.map .object) ∈ membersNamed report.members entry.1 := by
    rw [membersNamed_members]
    refine List.mem_append_left _ (List.mem_append_left _ (List.mem_append_right _ ?_))
    refine List.mem_map.mpr ⟨(entry.1, .array (entry.2.map .object)), ?_, rfl⟩
    exact List.mem_filter.mpr ⟨List.mem_map_of_mem listed, by simp⟩
  rw [toJson_eq, ofJson?]
  rcases List.mem_cons.mp reserved with here | reserved
  · rw [← here, readNatural?_of_array member]
    rfl
  · rcases List.mem_cons.mp reserved with here | reserved
    · rw [← here, readCount?_of_array member]
      cases readNatural? report.members frameIdName <;> rfl
    · rw [← List.mem_singleton.mp reserved, readCount?_of_array member]
      cases readNatural? report.members frameIdName <;>
        cases readCount? report.members objectCountName <;> rfl

end FrameReport

/-! ## What is reported -/

namespace Reporter

variable {reporter : Reporter} {frame : Frame} {report : FrameReport}

/-- An object is reported with its fields in order. -/
theorem ordered_objectReport (reporter : Reporter) (frame : Frame) (record : ObjectRecord) :
    (Json.object (reporter.objectReport frame record)).Ordered := by
  have folded : ∀ (fields : List String) (told : ObjectReport), told.Ascending →
      (∀ member ∈ told, member.2.Ordered) →
        (fields.foldl (addField frame record) told).Ascending ∧
          ∀ member ∈ fields.foldl (addField frame record) told, member.2.Ordered := by
    intro fields
    induction fields with
    | nil => exact fun _ ascending ordered => ⟨ascending, ordered⟩
    | cons field rest inductionHypothesis =>
        intro told ascending ordered
        refine inductionHypothesis _ ?_ ?_
        · unfold addField
          cases field? frame record field with
          | none => exact ascending
          | some value => exact ascending.putSorted field value.toJson
        · unfold addField
          cases field? frame record field with
          | none => exact ordered
          | some value =>
              intro member listed
              rcases Keyed.mem_putSorted listed with rfl | listed
              · exact value.ordered_toJson
              · exact ordered member listed
  rw [Json.Ordered, Json.orderedMembers_iff, objectReport_eq_foldl]
  exact folded reporter.spec.fields [] List.Pairwise.nil fun _ member =>
    absurd member List.not_mem_nil

/-- Every report is written with different names throughout and read back as it was, unless the type bears
one of the reserved names: then it cannot be read. -/
theorem reads_back (reported : (reporter.apply frame).2 = some report) :
    (reporter.spec.typeName ∉ FrameReport.reservedNames →
        (∃ members, report.toJson = .object members ∧ (members.map Prod.fst).Nodup ∧
            ∀ member ∈ members, member.2.Ordered) ∧
          FrameReport.ofJson? report.toJson = some report) ∧
      (reporter.spec.typeName ∈ FrameReport.reservedNames →
        FrameReport.ofJson? report.toJson = none) := by
  obtain ⟨_, objects⟩ := apply_eq_some reported
  have bears : report.objects.keys = [reporter.spec.typeName] := by
    rw [objects]
    rfl
  constructor
  · intro unreserved
    have free : report.Free := fun name member => by
      rw [bears] at member
      exact List.mem_singleton.mp member ▸ unreserved
    have ascending : report.objects.Ascending := by
      rw [Keyed.Ascending, bears]
      exact List.pairwise_singleton _ _
    have ordered : ∀ entry ∈ report.objects, ∀ object ∈ entry.2, (Json.object object).Ordered := by
      intro entry member object listed
      rw [objects] at member
      rw [List.mem_singleton.mp member] at listed
      obtain ⟨record, _, rfl⟩ := List.mem_map.mp listed
      exact ordered_objectReport reporter frame record
    exact ⟨⟨report.members, rfl, free.nodup_names ascending.nodup,
      FrameReport.ordered_of_members ordered⟩, FrameReport.ofJson?_toJson free ascending ordered⟩
  · intro reserved
    exact FrameReport.ofJson?_of_reserved (bears ▸ List.mem_singleton_self _) reserved

end Reporter

/-! ## Names for people -/

namespace Misnamed

open Onlookers

/-- People under the name of a count. -/
def person : ObjectType := .declare FrameReport.objectCountName "person" []

def query : Query where
  name := "misnamed"
  constraint := .isInstance person
  output := []

def plan : Plan where
  queryName := "misnamed"
  type := person
  stages :=
    [.classFilter "person" 0, .predicateFilter query.constraint "person" 0,
      .report ⟨FrameReport.objectCountName, "person", 0, Plan.defaultFields⟩]

/-- The frames of the reports of a run, and whether they can be read. -/
def readings (run : Run) : List (Option (Nat × Bool)) :=
  ((run.withLimit 0).items fun _ => 0).1.map fun item => item.toOption.map fun report =>
    (report.frameId, (FrameReport.ofJson? report.toJson).isSome)

theorem exists_of_readings {run : Run} {frame : Nat} (unread : some (frame, false) ∈ readings run) :
    ∃ report, .ok report ∈ ((run.withLimit 0).items fun _ => 0).1 ∧ report.frameId = frame ∧
      FrameReport.ofJson? report.toJson = none := by
  obtain ⟨item, member, read⟩ := List.mem_map.mp unread
  cases item with
  | error error => exact absurd read (by simp [Except.toOption])
  | ok report =>
      obtain ⟨named, none⟩ := Prod.mk.inj (Option.some.inj read)
      exact ⟨report, member, named, Option.not_isSome_iff_eq_none.mp (by simp [none])⟩

/-- The planner takes any name, and with this one no report of the run can be read. -/
theorem report_unreadable :
    ∃ run report, Plan.compile query = .ok plan ∧
      Run.start plan video detector "table" {} {} = .ok run ∧
        .ok report ∈ ((run.withLimit 0).items fun _ => 0).1 ∧ report.frameId = 1 ∧
          FrameReport.ofJson? report.toJson = none := by
  have compiled : Plan.compile query = .ok plan := by cbv
  have emits {run : Run} (started : Run.start plan video detector "table" {} {} = .ok run)
      (read : readings run = [some (1, false), some (2, false)]) :
      ∃ run report, Plan.compile query = .ok plan ∧
        Run.start plan video detector "table" {} {} = .ok run ∧
          .ok report ∈ ((run.withLimit 0).items fun _ => 0).1 ∧ report.frameId = 1 ∧
            FrameReport.ofJson? report.toJson = none := by
    obtain ⟨report, member, named, unread⟩ := exists_of_readings (read ▸ List.mem_cons_self)
    exact ⟨run, report, compiled, started, member, named, unread⟩
  exact emits rfl (by decide +kernel)

/-- A frame with two people. -/
def pair : Frame := (twins.selectClass "person" 0).toOption.getD twins

def reporter : Reporter :=
  .start ⟨"Person", "person", 0, ["track_id", "tlbr"]⟩
    { mode := .allFrames, countsObjects := true, countsTracks := true }

end Misnamed

open Misnamed in
theorem Reporter.reads_back_pair :
    ∃ report, (reporter.apply pair).2 = some report ∧ report.size = 2 ∧
      report.objectCount = some 2 ∧ report.totalCount = some 1 ∧
        reporter.spec.typeName ∉ FrameReport.reservedNames ∧
          FrameReport.ofJson? report.toJson = some report := by
  have unreserved : reporter.spec.typeName ∉ FrameReport.reservedNames := by decide
  have back {report : FrameReport} (reported : (reporter.apply pair).2 = some report) :
      FrameReport.ofJson? report.toJson = some report :=
    ((Reporter.reads_back reported).1 unreserved).2
  exact ⟨_, rfl, by decide +kernel, by decide +kernel, by decide +kernel, unreserved, back rfl⟩

end ObjectQuery
