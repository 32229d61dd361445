import TemplateCheck.Proofs.Pass.Dispatch
import TemplateCheck.Proofs.Pool.Reports

/-! # Stages of passes

What a pass does is told by the stages it ran: they are the first of those that
the kind of its document asks for, all but the last have passed, and each call of
the engine was made by one of them. A pass that a newer edit has overtaken was
stopped between two stages, so what it did is the beginning of what it would have
done on its own.
-/

namespace TemplateCheck

namespace Pass

variable {engine : Engine} {files : FileSystem} {context : Context}

theorem dispatched_run (sited : context.Sited files) {registries : Registries engine}
    {completed : Completed}
    (ended : (run files context registries).outcome = .completed completed) :
    Dispatched files context registries completed.stages (run files context registries).actions := by
  rcases journey_stagesFor sited registries List.prefix_rfl with
    ⟨looked, setback, last, journey, ran⟩
  rw [run_eq_resume, resume, ran] at ended ⊢
  rcases settled : settle context looked last setback with ⟨result, _ | stages⟩
  · rw [settled] at ended
    cases ended
  · rw [settled] at ended
    cases ended
    exact journey.dispatched settled

theorem run_ne_superseded {registries : Registries engine} :
    (run files context registries).outcome ≠ .superseded := by
  unfold run
  dsimp only
  split
  · nofun
  · nofun

/-- The record of the first stages of a pass is the beginning of its whole record. -/
theorem Passed.begins {registries : Registries engine} {past rest : List Stage}
    {work : Work engine} (passed : Passed files context registries.fresh past work)
    (split : stagesFor context.kind = past ++ rest) :
    work.actions <+: (run files context registries).actions := by
  have resumed := passed.resume [] rest
  rw [← split] at resumed
  have goesOn := resume_following work.actions files context ([] ++ past.map (⟨·, true⟩)) rest
    work.unrecorded
  rw [work.following_unrecorded] at goesOn
  have whole := (run_eq_resume files context registries).trans (resumed.trans goesOn)
  exact ⟨_, (congrArg Finished.actions whole).symm⟩

/-- The record of a pass that was stopped between two of its stages. -/
structure CutShort (files : FileSystem) (context : Context) (registries : Registries engine)
    (past rest : List Stage) (actions : List (Action engine.Template)) : Prop where
  split : stagesFor context.kind = past ++ rest
  more : rest ≠ []
  passed : ∃ work, Passed files context registries.fresh past work ∧ work.actions = actions
  traced : Traced files context registries.fresh (stagesFor context.kind) past [] actions
  begins : actions <+: (run files context registries).actions

/-- Stages that have passed have a course, and nothing set them back. -/
theorem Passed.journey (sited : context.Sited files) {registries : Registries engine}
    {past : List Stage} {work : Work engine}
    (passed : Passed files context registries.fresh past work)
    (first : past <+: stagesFor context.kind) :
    ∃ looked, Journey files context past registries.fresh looked none work := by
  rcases journey_stagesFor sited registries first with ⟨looked, setback, last, journey, ran⟩
  rw [passed] at ran
  rcases setback with _ | ⟨stage, failure | _⟩
  · cases (Prod.mk.inj ran).1
    exact ⟨looked, journey⟩
  · have results := Option.some.inj (Prod.mk.inj ran).2
    have failed : (⟨stage, false⟩ : StageResult) ∈ past.map (⟨·, true⟩) := by simp [results]
    rcases List.mem_map.mp failed with ⟨other, _, equal⟩
    cases equal
  · cases (Prod.mk.inj ran).2

theorem cutShort_of_passed (sited : context.Sited files) {registries : Registries engine}
    {past rest : List Stage} {work : Work engine} (split : stagesFor context.kind = past ++ rest)
    (more : rest ≠ []) (passed : Passed files context registries.fresh past work) :
    CutShort files context registries past rest work.actions := by
  refine ⟨split, more, ⟨work, passed, rfl⟩, ?_, passed.begins split⟩
  rcases passed.journey sited ⟨rest, split.symm⟩ with ⟨looked, journey⟩
  have begins : Passed files context registries.fresh [] registries.fresh := rfl
  rcases journey.traced begins with ⟨did, equal, traced⟩
  rw [journey.order.2 rfl] at traced
  have sameActions : work.actions = did := equal
  rw [sameActions, split]
  exact traced.before rest

end Pass

namespace Pool

open Roots (Ticket Handle Store)

variable {engine : Engine}

/-- The stages and the records of passes on their own and of those in a pool. -/
structure Dispatching (files : FileSystem) (moves : List Move) (deeds : List (Deed engine)) :
    Prop where
  table : stagesFor .model = [.model, .logic, .template, .sample] ∧
    stagesFor .logic = [.model, .logic] ∧ stagesFor .grammar = [.model, .template, .sample] ∧
    stagesFor .other = [.model]
  alone : ∀ (checker : Checker) (document : Document) (context : Pass.Context)
      (registries : Pass.Registries engine) (completed : Completed),
    Pass.arrive files checker document = .ok context →
    (Pass.validate files checker document registries).outcome = .completed completed →
    Pass.Dispatched files context registries completed.stages
      (Pass.validate files checker document registries).actions
  completed : ∀ number ticket completed, .ended number ticket (.completed completed) ∈ deeds →
    ∃ context registries, Sent files moves context ∧ ticket.document = context.document.uri ∧
      Pass.Dispatched files context registries completed.stages (actionsOf deeds number ticket)
  superseded : ∀ number ticket, .ended number ticket .superseded ∈ deeds →
    ∃ context registries past rest, Sent files moves context ∧
      ticket.document = context.document.uri ∧
      Pass.CutShort files context registries past rest (actionsOf deeds number ticket)

/-- For every engine and every run in which no file changes. -/
theorem dispatching_run (engine : Engine) (files : FileSystem) (capacity : Nat)
    (moves : List Move) (still : ∀ changed, .change changed ∉ moves) :
    Dispatching files moves ((Pool.empty engine files capacity).deeds moves) := by
  rcases conduct_run engine files capacity still with ⟨sameFiles, conduct⟩
  generalize (Pool.empty engine files capacity).run moves = pool at sameFiles conduct
  generalize (Pool.empty engine files capacity).deeds moves = deeds at conduct ⊢
  subst sameFiles
  refine ⟨⟨rfl, rfl, rfl, rfl⟩, ?alone, ?completed, ?superseded⟩
  case alone =>
    intro checker document context registries completed arrived ended
    have equal : Pass.validate pool.files checker document registries =
        Pass.run pool.files context registries := by
      simp only [Pass.validate, arrived]
    rw [equal] at ended ⊢
    exact Pass.dispatched_run (Pass.sited_of_arrive arrived).1 ended
  case completed =>
    intro number ticket completed member
    rcases conduct.ended number ticket _ member with ⟨context, registries, ended⟩
    refine ⟨context, registries, ended.sent, ended.own, ?_⟩
    cases ended.fate with
    | finished ran =>
        have dispatched := @Pass.dispatched_run _ _ _ (Pass.sited_of_arrive ended.sent.arrived).1
          registries completed (by rw [ran])
        rw [ran] at dispatched
        exact dispatched
  case superseded =>
    intro number ticket member
    rcases conduct.ended number ticket _ member with ⟨context, registries, ended⟩
    have sited := (Pass.sited_of_arrive ended.sent.arrived).1
    cases ended.fate with
    | finished ran => exact absurd (congrArg Pass.Finished.outcome ran) Pass.run_ne_superseded
    | @superseded past rest work split more passed did =>
        refine ⟨context, registries, past, rest, ended.sent, ended.own, ?_⟩
        rw [← did]
        exact Pass.cutShort_of_passed sited split more passed

namespace LateEdit

/-- The first pass is cut short after its first stage, and the second one fails in
its second stage. -/
theorem dispatching_lateEdit :
    (∀ changed, .change changed ∉ moves) ∧
      Dispatching package moves ((Pool.empty Scripted.engine package 1).deeds moves) ∧
      ((Pool.empty Scripted.engine package 1).deeds moves).filterMap (fun
        | .started _ ticket stage => some (ticket.generation, some stage)
        | .ended _ ticket _ => some (ticket.generation, none)
        | _ => none) =
        [(1, some .model), (1, none), (2, some .model), (2, some .logic), (2, none)] :=
  ⟨still_moves, dispatching_run Scripted.engine package 1 moves still_moves, by decide +kernel⟩

end LateEdit

end Pool

end TemplateCheck
