import Mathlib.Data.List.Forall2
import Mathlib.Data.List.Induction
import TemplateCheck.Proofs.Diagnostic.Order
import TemplateCheck.Proofs.History
import TemplateCheck.Proofs.Increasing
import TemplateCheck.Proofs.Pass.Findings
import TemplateCheck.Server

/-! # What a report says after its calls

A report is made by calls that mark files valid and add diagnostics to them. What it says
about a file is what was added since the file was last marked valid. Files and diagnostics
stand in their orders, each once, so the report does not depend on how the calls on different
files were interleaved, nor on the order and number of the additions between two marks.
-/

namespace TemplateCheck.Report

/-- A call that changes a report. -/
inductive Call where
  | markValid (uri : Uri)
  | add (uri : Uri) (diagnostic : Diagnostic)

namespace Call

def uri : Call → Uri
  | .markValid uri => uri
  | .add uri _ => uri

def apply (report : Report) : Call → Report
  | .markValid uri => report.markValid uri
  | .add uri diagnostic => report.add uri diagnostic

/-- What is known about the file of a call once it is made. -/
def update (known : Option (List Diagnostic)) : Call → List Diagnostic
  | .markValid _ => []
  | .add _ diagnostic => Ordered.insert Diagnostic.compare diagnostic (known.getD [])

end Call

def after (calls : List Call) : Report :=
  calls.foldl Call.apply empty

/-- The calls on one file. -/
def callsOn (uri : Uri) (calls : List Call) : List Call :=
  calls.filter fun call => call.uri.same uri

/-- A diagnostic was added to a file that was not marked valid later on. -/
def Stands (calls : List Call) (uri : Uri) (diagnostic : Diagnostic) : Prop :=
  Lasts (fun call => ∃ own, call = .add own diagnostic ∧ own.same uri = true)
    (fun call => ∀ own, call = .markValid own → own.same uri = false) calls

/-- What is added before the first mark, between the marks, and after the last. -/
def stretches : List Call → List (List Diagnostic)
  | [] => [[]]
  | .markValid _ :: rest => [] :: stretches rest
  | .add _ diagnostic :: rest => (stretches rest).modifyHead (diagnostic :: ·)

/-- The same diagnostics in each stretch, in any order and number. -/
def Alike (left right : List (List Diagnostic)) : Prop :=
  List.Forall₂ (fun first second => ∀ diagnostic, diagnostic ∈ first ↔ diagnostic ∈ second)
    left right

/-- The calls on each file differ only in the order and number of the additions between two
marks. How calls on different files are interleaved does not matter. -/
def Rearranged (left right : List Call) : Prop :=
  ∀ uri, Alike (stretches (callsOn uri left)) (stretches (callsOn uri right))

/-! ## One call -/

theorem get?_congr (report : Report) {uri other : Uri} (same : uri.same other = true) :
    report.get? uri = report.get? other :=
  Ordered.find?_congr (Uri.compare_eq_iff.mpr same) report.files

theorem get?_apply (report : Report) (call : Call) (uri : Uri) :
    (call.apply report).get? uri =
      if uri.same call.uri = true then some (call.update (report.get? call.uri))
      else report.get? uri := by
  cases call with
  | markValid own => exact Uri.find?_put own uri [] report.files
  | add own diagnostic => exact get?_add report own uri diagnostic

/-- Files stand in their order, and so do the diagnostics of each. -/
structure Sorted (report : Report) : Prop where
  files : Ordered.IncreasingKeys Uri.compare report.files
  diagnostics : ∀ entry ∈ report.files, Ordered.Increasing Diagnostic.compare entry.2

theorem Sorted.get? {report : Report} (sorted : report.Sorted) {uri : Uri}
    {diagnostics : List Diagnostic} (found : report.get? uri = some diagnostics) :
    Ordered.Increasing Diagnostic.compare diagnostics := by
  rcases Ordered.mem_of_find? found with ⟨own, member⟩
  exact sorted.diagnostics _ member

theorem Sorted.known {report : Report} (sorted : report.Sorted) (uri : Uri) :
    Ordered.Increasing Diagnostic.compare ((report.get? uri).getD []) := by
  cases found : report.get? uri with
  | none => exact .nil
  | some diagnostics => exact sorted.get? found

theorem Sorted.put {report : Report} (sorted : report.Sorted) (uri : Uri)
    {diagnostics : List Diagnostic}
    (increasing : Ordered.Increasing Diagnostic.compare diagnostics) :
    Sorted ⟨Ordered.put Uri.compare uri diagnostics report.files⟩ where
  files := sorted.files.put uri diagnostics
  diagnostics := by
    intro entry member
    rcases Ordered.mem_put member with new | old
    · exact new ▸ increasing
    · exact sorted.diagnostics entry old

theorem Sorted.apply {report : Report} (sorted : report.Sorted) (call : Call) :
    (call.apply report).Sorted := by
  cases call with
  | markValid uri => exact sorted.put uri .nil
  | add uri diagnostic => exact sorted.put uri ((sorted.known uri).insert diagnostic)

/-! ## All calls -/

theorem after_append (calls : List Call) (call : Call) :
    after (calls ++ [call]) = call.apply (after calls) := by
  simp [after]

theorem sorted_after (calls : List Call) : (after calls).Sorted := by
  induction calls using List.reverseRecOn with
  | nil => exact ⟨.nil, by simp [after, empty]⟩
  | append_singleton calls call induction =>
      rw [after_append]
      exact induction.apply call

theorem get?_after_eq_none_iff (calls : List Call) (uri : Uri) :
    (after calls).get? uri = none ↔ ∀ call ∈ calls, call.uri.same uri = false := by
  induction calls using List.reverseRecOn with
  | nil => simp [after, empty, get?, Ordered.find?]
  | append_singleton calls call induction =>
      rw [after_append, get?_apply, Uri.same_comm]
      by_cases same : call.uri.same uri = true
      · simp [same]
      · have different : call.uri.same uri = false := Bool.eq_false_iff.mpr same
        simp [different, induction, or_imp, forall_and]

theorem stands_append {calls : List Call} {call : Call} {uri : Uri} {diagnostic : Diagnostic} :
    Stands (calls ++ [call]) uri diagnostic ↔
      (∃ own, call = .add own diagnostic ∧ own.same uri = true) ∨
        Stands calls uri diagnostic ∧ ∀ own, call = .markValid own → own.same uri = false :=
  lasts_append

/-- What is known about a file is what was added since it was last marked valid. -/
theorem mem_known_after (calls : List Call) (uri : Uri) (diagnostic : Diagnostic) :
    diagnostic ∈ ((after calls).get? uri).getD [] ↔ Stands calls uri diagnostic := by
  induction calls using List.reverseRecOn with
  | nil => simp [after, empty, get?, Ordered.find?, Stands, not_lasts_nil]
  | append_singleton calls call induction =>
      rw [after_append, get?_apply, stands_append, Uri.same_comm]
      by_cases same : call.uri.same uri = true
      · rw [if_pos same, get?_congr _ same]
        cases call with
        | markValid own =>
            have sameOwn : own.same uri = true := same
            simp [Call.update, sameOwn]
        | add own other =>
            have sameOwn : own.same uri = true := same
            simp [Call.update, Ordered.mem_insert_iff, induction, sameOwn, @eq_comm _ diagnostic]
      · rw [if_neg same, induction]
        cases call with
        | markValid own =>
            have different : own.same uri = false := Bool.eq_false_iff.mpr same
            simp [different]
        | add own other =>
            have different : own.same uri = false := Bool.eq_false_iff.mpr same
            simp [different]

/-! ## Rearranged calls -/

theorem stretches_ne_nil (calls : List Call) : stretches calls ≠ [] := by
  induction calls with
  | nil => simp [stretches]
  | cons call rest induction =>
      cases call with
      | markValid own => simp [stretches]
      | add own diagnostic => simpa [stretches] using induction

theorem stretches_eq_iff {calls : List Call} : stretches calls = [[]] ↔ calls = [] := by
  cases calls with
  | nil => simp [stretches]
  | cons call rest =>
      cases call with
      | markValid own => simp [stretches, stretches_ne_nil]
      | add own diagnostic =>
          rcases List.exists_cons_of_ne_nil (stretches_ne_nil rest) with ⟨first, others, shape⟩
          simp [stretches, shape]

theorem stretches_append_markValid (calls : List Call) (uri : Uri) :
    stretches (calls ++ [.markValid uri]) = stretches calls ++ [[]] := by
  induction calls with
  | nil => rfl
  | cons call rest induction =>
      cases call with
      | markValid own => simp [stretches, induction]
      | add own diagnostic =>
          rcases List.exists_cons_of_ne_nil (stretches_ne_nil rest) with ⟨first, others, shape⟩
          simp [stretches, induction, shape]

theorem stretches_append_add (calls : List Call) (uri : Uri) (diagnostic : Diagnostic) :
    ∃ front last, stretches calls = front ++ [last] ∧
      stretches (calls ++ [.add uri diagnostic]) = front ++ [last ++ [diagnostic]] := by
  induction calls with
  | nil => exact ⟨[], [], rfl, rfl⟩
  | cons call rest induction =>
      rcases induction with ⟨front, last, shape, added⟩
      cases call with
      | markValid own =>
          exact ⟨[] :: front, last, by simp [stretches, shape], by simp [stretches, added]⟩
      | add own other =>
          cases front with
          | nil =>
              exact ⟨[], other :: last, by simp [stretches, shape], by simp [stretches, added]⟩
          | cons first others =>
              exact ⟨(other :: first) :: others, last, by simp [stretches, shape],
                by simp [stretches, added]⟩

/-- What stands is what was added in the last stretch. -/
theorem mem_last_stretch (calls : List Call) (uri : Uri) (diagnostic : Diagnostic) :
    diagnostic ∈ (stretches (callsOn uri calls)).getLastD [] ↔ Stands calls uri diagnostic := by
  induction calls using List.reverseRecOn with
  | nil => simp [callsOn, stretches, Stands, not_lasts_nil]
  | append_singleton calls call induction =>
      rw [stands_append, ← induction, callsOn, List.filter_append, ← callsOn]
      cases call with
      | markValid own =>
          by_cases same : own.same uri = true
          · simp [Call.uri, same, stretches_append_markValid]
          · simp [Call.uri, same]
      | add own other =>
          by_cases same : own.same uri = true
          · rcases stretches_append_add (callsOn uri calls) own other with
              ⟨front, last, shape, added⟩
            simp [Call.uri, same, shape, added, or_comm, @eq_comm _ diagnostic]
          · simp [Call.uri, same]

theorem callsOn_eq_nil_iff {calls : List Call} {uri : Uri} :
    callsOn uri calls = [] ↔ ∀ call ∈ calls, call.uri.same uri = false := by
  simp [callsOn]

theorem Alike.mem_last {left right : List (List Diagnostic)} (alike : Alike left right)
    (diagnostic : Diagnostic) :
    diagnostic ∈ left.getLastD [] ↔ diagnostic ∈ right.getLastD [] := by
  induction alike with
  | nil => rfl
  | cons head tail induction =>
      cases tail with
      | nil => exact head diagnostic
      | cons second rest => exact induction

theorem Alike.eq_iff {left right : List (List Diagnostic)} (alike : Alike left right) :
    left = [[]] ↔ right = [[]] := by
  cases alike with
  | nil => rfl
  | @cons first second _ _ head tail =>
      have heads : first = [] ↔ second = [] := by
        simp only [List.eq_nil_iff_forall_not_mem, head]
      cases tail with
      | nil => simp [heads]
      | cons _ _ => simp

theorem Rearranged.get? {left right : List Call} (rearranged : Rearranged left right) (uri : Uri) :
    (after left).get? uri = (after right).get? uri := by
  have absent : (after left).get? uri = none ↔ (after right).get? uri = none := by
    rw [get?_after_eq_none_iff, get?_after_eq_none_iff, ← callsOn_eq_nil_iff,
      ← callsOn_eq_nil_iff, ← stretches_eq_iff, ← stretches_eq_iff]
    exact (rearranged uri).eq_iff
  have members : ∀ diagnostic, diagnostic ∈ ((after left).get? uri).getD [] ↔
      diagnostic ∈ ((after right).get? uri).getD [] := by
    intro diagnostic
    rw [mem_known_after, mem_known_after, ← mem_last_stretch, ← mem_last_stretch]
    exact (rearranged uri).mem_last diagnostic
  have known :=
    ((sorted_after left).known uri).eq_of_mem_iff ((sorted_after right).known uri) members
  cases foundLeft : (after left).get? uri with
  | none => exact (absent.mp foundLeft).symm
  | some first =>
      cases foundRight : (after right).get? uri with
      | none => exact absurd (absent.mpr foundRight) (by simp [foundLeft])
      | some second => simpa [foundLeft, foundRight] using known

/-! ## Batches -/

/-- A batch as it is published: URIs are known by their texts. -/
def content (batch : Batch) : String × List Diagnostic :=
  (batch.uri.text, batch.diagnostics)

theorem Sorted.get?_eq_some_iff {report : Report} (sorted : report.Sorted) {uri : Uri}
    {diagnostics : List Diagnostic} :
    report.get? uri = some diagnostics ↔ (uri.text, diagnostics) ∈ report.batches.map content := by
  rw [Report.get?, sorted.files.find?_eq_some_iff]
  simp only [Uri.compare_eq_iff, Uri.same_iff, batches, List.map_map, List.mem_map,
    Function.comp_apply, content, Prod.mk.injEq, Prod.exists]
  constructor
  · rintro ⟨own, member, same⟩
    exact ⟨own, diagnostics, member, same.symm, rfl⟩
  · rintro ⟨own, _, member, same, rfl⟩
    exact ⟨own, member, same.symm⟩

theorem Sorted.batches_increasing {report : Report} (sorted : report.Sorted) :
    Ordered.Increasing (compareOn Prod.fst) (report.batches.map content) := by
  rw [batches, List.map_map, Ordered.Increasing, List.pairwise_map]
  exact sorted.files

/-- A report is determined by what it says about each file. -/
theorem Sorted.batches_eq {left right : Report} (leftSorted : left.Sorted)
    (rightSorted : right.Sorted) (same : ∀ uri, left.get? uri = right.get? uri) :
    left.batches.map content = right.batches.map content := by
  apply leftSorted.batches_increasing.eq_of_mem_iff rightSorted.batches_increasing
  intro entry
  constructor
  · intro member
    rcases List.mem_map.mp member with ⟨batch, _, rfl⟩
    exact rightSorted.get?_eq_some_iff.mp (same batch.uri ▸ leftSorted.get?_eq_some_iff.mpr member)
  · intro member
    rcases List.mem_map.mp member with ⟨batch, _, rfl⟩
    exact leftSorted.get?_eq_some_iff.mp (same batch.uri ▸ rightSorted.get?_eq_some_iff.mpr member)

/-- A report that says about each file what was added to it since it was last marked valid, in
the order of the bytes of the files' URIs and in the order of the diagnostics. -/
structure Summarizes (calls : List Call) (report : Report) : Prop where
  absent : ∀ uri, report.get? uri = none ↔ ∀ call ∈ calls, call.uri.same uri = false
  present : ∀ uri diagnostics, report.get? uri = some diagnostics →
    ∀ diagnostic, diagnostic ∈ diagnostics ↔ Stands calls uri diagnostic
  listed : ∀ uri diagnostics, report.get? uri = some diagnostics ↔
    ∃ batch ∈ report.batches, batch.uri.same uri = true ∧ batch.diagnostics = diagnostics
  ascending : report.batches.Pairwise fun left right =>
    Text.Utf8.encode left.uri.text < Text.Utf8.encode right.uri.text
  ordered : ∀ batch ∈ report.batches, batch.diagnostics.Pairwise Diagnostic.Precedes
  distinct : ∀ batch ∈ report.batches, batch.diagnostics.Nodup
  size : report.size = report.batches.length
  errorCount : report.errorCount =
    (report.batches.flatMap Batch.diagnostics).countP fun diagnostic =>
      diagnostic.severity == .error
  published : ∀ delivery root stages,
    delivery.outcome = .completed ⟨root, stages, report⟩ →
      Server.publications delivery = report.batches.map Session.publication

theorem Sorted.summarizes {calls : List Call} (sorted : (after calls).Sorted) :
    Summarizes calls (after calls) where
  absent := get?_after_eq_none_iff calls
  present := by
    intro uri diagnostics found diagnostic
    rw [← mem_known_after, found, Option.getD_some]
  listed := by
    intro uri diagnostics
    rw [sorted.get?_eq_some_iff]
    simp [content, Uri.same_iff]
  ascending := by
    rw [batches, List.pairwise_map]
    exact sorted.files.imp Uri.compare_eq_lt_iff.mp
  ordered := by
    intro batch member
    rcases List.mem_map.mp member with ⟨entry, inFiles, rfl⟩
    exact (sorted.diagnostics entry inFiles).imp Diagnostic.compare_eq_lt_iff.mp
  distinct := by
    intro batch member
    rcases List.mem_map.mp member with ⟨entry, inFiles, rfl⟩
    exact (sorted.diagnostics entry inFiles).nodup
  size := by simp [size, batches]
  errorCount := by
    rw [errorCount, batches, List.flatMap_map]
    rfl
  published := by
    intro delivery root stages completed
    rw [Server.publications, completed]
    rfl

/-- A report says about each file what was added since the file was last marked valid, and says
the same after calls that were rearranged. -/
theorem after_summarizes (calls : List Call) :
    Summarizes calls (after calls) ∧
      ∀ others, Rearranged calls others →
        (after calls).batches.map content = (after others).batches.map content := by
  refine ⟨(sorted_after calls).summarizes, ?_⟩
  intro others rearranged
  exact (sorted_after calls).batches_eq (sorted_after others) rearranged.get?

namespace TwoFiles

def model : Uri := ⟨"file", some ⟨"", "", none⟩, "/m.cto", none, none⟩

def logic : Uri := ⟨"file", some ⟨"", "", none⟩, "/l.js", none, none⟩

def unused : Diagnostic := .error .documentStart "unused" .model

def missing : Diagnostic := .error .documentStart "missing" .model

def calls : List Call :=
  [.add model unused, .add logic unused, .markValid model, .add model unused, .add model missing]

def shuffled : List Call :=
  [.add model unused, .markValid model, .add model missing, .add model unused, .add model missing,
    .add logic unused]

theorem rearranged : Rearranged calls shuffled := by
  intro uri
  have apart : ¬ (model.same uri = true ∧ logic.same uri = true) := by
    rintro ⟨isModel, isLogic⟩
    exact absurd (Uri.same_trans isModel (Uri.same_symm isLogic)) (by decide +kernel)
  cases isModel : model.same uri <;> cases isLogic : logic.same uri <;>
    simp_all [calls, shuffled, callsOn, Call.uri, stretches, Alike, or_comm]

/-- The old error is gone with the mark, and the two new ones are there once each. -/
theorem after_summarizes_shuffled :
    Rearranged calls shuffled ∧
      (after calls).batches.map content = (after shuffled).batches.map content ∧
        (after shuffled).batches = [⟨logic, [unused]⟩, ⟨model, [missing, unused]⟩] :=
  ⟨rearranged, (after_summarizes calls).2 shuffled rearranged, by decide +kernel⟩

end TwoFiles

end TemplateCheck.Report
