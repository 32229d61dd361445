import TemplateCheck.Session.Basic

/-! # Refused initialization

An initialize request is refused because the session is initialized or shutting down,
because its parameters or options cannot be read, or, at last, because the layout in
force makes no patterns. All refusals but the last leave the session as it was. Before
the last one the session has taken over the settings and the folders, so they stay with
it: a later request finds the layout that was refused unless it brings its own.
-/

namespace TemplateCheck.Session

/-- What an initialize request asks for, if it can be read. -/
def asked? (params : Option Json) : Option (InitializeParams × InitializationOptions) :=
  match orDefault initializeRecord params with
  | .error _ => none
  | .ok asked =>
      match orDefault optionsRecord asked.initializationOptions with
      | .error _ => none
      | .ok options => some (asked, options)

/-- Make what checks documents, by the layout in force. -/
def equip (session : Session) : Session × Except Refusal Json :=
  match Checker.ofLayout session.settings.layout with
  | .error fault => (session, .error (invalidParams fault.message))
  | .ok checker => ({ session with checker := some checker }, .ok capabilities)

theorem setUp_of_initialized {session : Session} (initialized : session.checker.isSome = true)
    (params : Option Json) :
    session.setUp params = (session, .error (invalidRequest "Server already initialized")) := by
  rw [setUp, if_pos initialized]

theorem setUp_of_unread {session : Session} (fresh : session.checker = none)
    {params : Option Json} (unread : asked? params = none) :
    ∃ refusal, session.setUp params = (session, .error refusal) := by
  unfold asked? at unread
  cases read : orDefault initializeRecord params with
  | error fault => exact ⟨_, by simp only [setUp, fresh, read]; rfl⟩
  | ok asked =>
      cases readOptions : orDefault optionsRecord asked.initializationOptions with
      | error fault => exact ⟨_, by simp only [setUp, fresh, read, readOptions]; rfl⟩
      | ok options => simp [read, readOptions] at unread

/-- What was read is taken over before the layout is tried. -/
theorem setUp_of_asked {session : Session} (fresh : session.checker = none)
    {params : Option Json} {asked : InitializeParams} {options : InitializationOptions}
    (isAsked : asked? params = some (asked, options)) :
    session.setUp params = (session.adopt asked options).equip := by
  unfold asked? at isAsked
  cases read : orDefault initializeRecord params with
  | error fault => simp [read] at isAsked
  | ok params' =>
      cases readOptions : orDefault optionsRecord params'.initializationOptions with
      | error fault => simp [read, readOptions] at isAsked
      | ok options' =>
          have parts : params' = asked ∧ options' = options := by
            simpa [read, readOptions] using isAsked
          rcases parts with ⟨rfl, rfl⟩
          cases made : Checker.ofLayout (session.adopt params' options').settings.layout with
          | error fault => simp [setUp, fresh, read, readOptions, equip, made]
          | ok checker => simp [setUp, fresh, read, readOptions, equip, made]

theorem handleRequest_of_running {session : Session} (running : session.isShuttingDown = false)
    (params : Option Json) : session.handleRequest "initialize" params = session.setUp params := by
  simp [handleRequest, running]

/-- A request to which nothing is objected but the layout that it leads to. -/
structure Misfit (session : Session) (params : Option Json) (asked : InitializeParams)
    (options : InitializationOptions) : Prop where
  running : session.isShuttingDown = false
  fresh : session.checker = none
  isAsked : asked? params = some (asked, options)
  refused : ∃ fault, Checker.ofLayout (session.adopt asked options).settings.layout = .error fault

theorem Misfit.handled {session : Session} {params : Option Json} {asked : InitializeParams}
    {options : InitializationOptions} (misfit : Misfit session params asked options) :
    (session.handleRequest "initialize" params).1 = session.adopt asked options := by
  rcases misfit.refused with ⟨fault, refused⟩
  rw [handleRequest_of_running misfit.running, setUp_of_asked misfit.fresh misfit.isAsked, equip,
    refused]

/-- A request that is refused changes nothing unless it is refused at last. -/
theorem unchanged_or_misfit {session : Session} {params : Option Json} {refusal : Refusal}
    (rejected : (session.handleRequest "initialize" params).2 = .error refusal) :
    (session.handleRequest "initialize" params).1 = session ∨
      ∃ asked options, Misfit session params asked options := by
  by_cases shuttingDown : session.isShuttingDown = true
  · left
    rw [handleRequest, if_pos shuttingDown]
  · have running : session.isShuttingDown = false := by simpa using shuttingDown
    rw [handleRequest_of_running running] at rejected ⊢
    by_cases initialized : session.checker.isSome = true
    · left
      rw [setUp_of_initialized initialized]
    · have fresh : session.checker = none := by simpa using initialized
      cases isAsked : asked? params with
      | none =>
          rcases setUp_of_unread fresh isAsked with ⟨reason, handled⟩
          left
          rw [handled]
      | some parts =>
          rcases parts with ⟨asked, options⟩
          right
          refine ⟨asked, options, running, fresh, isAsked, ?_⟩
          rw [setUp_of_asked fresh isAsked, equip] at rejected
          cases made : Checker.ofLayout (session.adopt asked options).settings.layout with
          | error fault => exact ⟨fault, rfl⟩
          | ok checker => simp [made] at rejected

/-- What a session looks like after an initialize request was refused. -/
structure Refused (session : Session) (params : Option Json) (after : Session) : Prop where
  kept : after.checker = session.checker ∧ after.documents = session.documents ∧
    after.isShuttingDown = session.isShuttingDown
  /-- Nothing has changed unless the request was read and asked for something new, and
  then did not fit. -/
  unchanged : after = session ↔
    ∀ asked options, Misfit session params asked options → session.adopt asked options = session
  /-- A later request finds the session as it was if it brings all that the refused one
  had left behind. -/
  later : ∀ next asked options checker, asked? next = some (asked, options) →
    Checker.ofLayout session.settings.layout = .ok checker →
    (after.handleRequest "initialize" next = session.handleRequest "initialize" next ↔
      ∀ before overrides, Misfit session params before overrides →
        options.layout.isSome = true ∧
          (options.session.isSome = true ∨
            overrides.session.getD session.settings.session = session.settings.session))

theorem settings_equip (session : Session) : session.equip.1.settings = session.settings := by
  unfold equip
  split
  · rfl
  · rfl

/-- Behind a misfit a request is handled as before exactly if it brings a layout, and
settings where the misfit has changed them. -/
theorem Misfit.later {session : Session} {params : Option Json} {before : InitializeParams}
    {overrides : InitializationOptions} (misfit : Misfit session params before overrides)
    {next : Option Json} {asked : InitializeParams} {options : InitializationOptions}
    (isAsked : asked? next = some (asked, options)) {checker : Checker}
    (fits : Checker.ofLayout session.settings.layout = .ok checker) :
    (session.adopt before overrides).handleRequest "initialize" next =
        session.handleRequest "initialize" next ↔
      options.layout.isSome = true ∧
        (options.session.isSome = true ∨
          overrides.session.getD session.settings.session = session.settings.session) := by
  have running : (session.adopt before overrides).isShuttingDown = false := misfit.running
  have fresh : (session.adopt before overrides).checker = none := misfit.fresh
  rw [handleRequest_of_running running, setUp_of_asked fresh isAsked,
    handleRequest_of_running misfit.running, setUp_of_asked misfit.fresh isAsked]
  constructor
  · intro same
    constructor
    · cases layout : options.layout with
      | some own => rfl
      | none =>
          -- The layout that was refused is tried again, and the one before it is not.
          rcases misfit.refused with ⟨fault, refused⟩
          have again : ((session.adopt before overrides).adopt asked options).settings.layout =
              (session.adopt before overrides).settings.layout := by simp [adopt, layout]
          have old : (session.adopt asked options).settings.layout = session.settings.layout := by
            simp [adopt, layout]
          have answers := congrArg Prod.snd same
          simp only [equip, again, refused, old, fits] at answers
          cases answers
    · cases own : options.session with
      | some settings => exact Or.inl rfl
      | none =>
          have settings := congrArg (fun handled => handled.1.settings.session) same
          simp only [settings_equip] at settings
          right
          simpa [adopt, own] using settings
  · rintro ⟨layout, settings⟩
    have adopted : (session.adopt before overrides).adopt asked options =
        session.adopt asked options := by
      rcases Option.isSome_iff_exists.mp layout with ⟨own, isOwn⟩
      rcases settings with isSome | equal
      · rcases Option.isSome_iff_exists.mp isSome with ⟨chosen, isChosen⟩
        simp [adopt, isOwn, isChosen]
      · simp [adopt, isOwn, equal]
    rw [adopted]

/-- After a refused initialize request the session is what it was, but for what the
request had brought before the layout turned out not to fit. -/
theorem initialize_refused {session : Session} {params : Option Json} {refusal : Refusal}
    (rejected : (session.handleRequest "initialize" params).2 = .error refusal) :
    Refused session params (session.handleRequest "initialize" params).1 := by
  have misfits : ∀ asked options, Misfit session params asked options →
      (session.handleRequest "initialize" params).1 = session.adopt asked options :=
    fun _ _ misfit => misfit.handled
  rcases unchanged_or_misfit rejected with unchanged | ⟨asked, options, misfit⟩
  · rw [unchanged] at misfits ⊢
    refine ⟨⟨rfl, rfl, rfl⟩, ?_, ?_⟩
    · exact ⟨fun _ asked options misfit => (misfits asked options misfit).symm, fun _ => rfl⟩
    · intro next asked options checker isAsked fits
      refine ⟨?_, fun _ => rfl⟩
      intro _ before overrides misfit
      rw [← misfit.later isAsked fits, ← misfits before overrides misfit]
  · rw [misfit.handled]
    have unique : ∀ before overrides, Misfit session params before overrides →
        before = asked ∧ overrides = options := by
      intro before overrides other
      have same := misfit.isAsked.symm.trans other.isAsked
      cases same
      exact ⟨rfl, rfl⟩
    refine ⟨⟨rfl, rfl, rfl⟩, ?_, ?_⟩
    · constructor
      · intro same before overrides other
        rcases unique before overrides other with ⟨rfl, rfl⟩
        exact same
      · intro all
        exact all asked options misfit
    · intro next asked' options' checker isAsked fits
      rw [misfit.later isAsked fits]
      constructor
      · intro brings before overrides other
        rcases unique before overrides other with ⟨rfl, rfl⟩
        exact brings
      · intro all
        exact all asked options misfit

/-! A request with a folder and a layout whose extension ends with a backslash, which
makes no pattern. -/

namespace LoneBackslash

def params : Option Json :=
  some (.obj [
    ("initializationOptions", .obj [("layout", .obj [("model_extension", .str "cto\\")])]),
    ("rootUri", .str "file:///p")])

def refused : Session := (({} : Session).handleRequest "initialize" params).1

theorem refused_loneBackslash :
    (({} : Session).handleRequest "initialize" params).2.toBool = false ∧
      Refused {} params refused := by
  have rejected : (({} : Session).handleRequest "initialize" params).2.toBool = false := by
    decide +kernel
  refine ⟨rejected, ?_⟩
  cases answer : (({} : Session).handleRequest "initialize" params).2 with
  | ok result =>
      rw [answer] at rejected
      cases rejected
  | error refusal => exact initialize_refused answer

/-- The refused layout and folder stay, and a request without parameters, which would
have been granted, is refused too. -/
theorem refusal_leaves_layout :
    (({} : Session).handleRequest "initialize" params).2.toBool = false ∧
      refused.settings.layout.modelExtension = "cto\\" ∧ refused.folders.length = 1 ∧
      (({} : Session).handleRequest "initialize" none).2.toBool = true ∧
      (refused.handleRequest "initialize" none).2.toBool = false := by
  decide +kernel

end LoneBackslash

end TemplateCheck.Session
