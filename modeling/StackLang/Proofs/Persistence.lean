/-
Sessions kept in an image.

A program that is started once for each input, and keeps its session in an image between the
starts, does what one session does that takes all the inputs.

* `Command`, `runAll`: starts of the program with a source text and an image, each of which
  finds the image that the one before has left.
* `Console.serveAll`: one console that takes the same source texts one after the other.
* `resumed_encode`: the program takes up exactly the session that was stored.
* `Served`: commands taken by one session, with what each of them writes.  The facts about runs
  are inductions over it (`Served.runAll_eq`, `Served.runAll_filter`).
* `runAll_transparent`: images and outputs are those of the one console; starts that run
  nothing change neither the image nor what the others do.

Design notes: the format of an image counts the bytes of a text by 64 bits.  Texts of the model
can be longer, texts in memory cannot; `Session.Storable` excludes them.
-/
import StackLang.CommandLine
import StackLang.Proofs.Growth
import StackLang.Proofs.Requests
import StackLang.Proofs.Writing

namespace StackLang

/-! ### Runs one after the other -/

/-- A start of the program with a source text as its argument.  What waits on its input is not
read. -/
structure Command where
  mode : Mode
  source : String
  style : DumpStyle := {}
  input : Bytes := []
deriving DecidableEq

namespace Command

/-- The invocation that names an image, whose file has the given bytes if it exists. -/
def invocation (command : Command) (stackSize : Nat) (maxSteps : Option Nat)
    (image : Option Bytes) : Invocation where
  mode := command.mode
  source := some command.source
  maxSteps := maxSteps
  stackSize := stackSize
  style := command.style
  keepsImage := true
  image := image

/-- What the command asks of a console. -/
def act (command : Command) : Interact Unit :=
  Console.once command.mode command.style (Text.trimBlankEnd command.source)

/-- The source text is run. -/
def evaluates (command : Command) : Bool :=
  command.mode.evaluates

/-- What the command makes of a session. -/
def effect (command : Command) (s : Session) : Session :=
  if command.evaluates then (s.eval (Text.trimBlankEnd command.source) {}).2.1 else s

end Command

/-- What comes of starting the program once for each command, every time with the image that
the start before has left. -/
def runAll (stackSize : Nat) (maxSteps : Option Nat) :
    Option Bytes → List Command → List Departure
  | _, [] => []
  | image, command :: commands =>
    let departure := (command.invocation stackSize maxSteps image).run command.input
    departure :: runAll stackSize maxSteps departure.image commands

/-- The console after each of the commands, taken one after the other. -/
def Console.serveAll : Console → List Command → Except IoError (List Console)
  | _, [] => .ok []
  | c, command :: commands =>
    match command.act c with
    | .ok () c' => (serveAll c' commands).map (c' :: ·)
    | .error e _ => .error e

/-! ### One command -/

namespace Command

theorem act_taking (command : Command) (s : Session) :
    ∃ bytes : Bytes, ∀ written, command.act ⟨s, .taking written⟩ =
      .ok () ⟨command.effect s, .taking (written ++ bytes)⟩ := by
  rw [effect]
  cases h : command.evaluates with
  | true => exact Console.once_of_evaluates h _ _ s
  | false => exact Console.once_of_not_evaluates h _ _ s

theorem effect_of_not_evaluates {command : Command} (h : command.evaluates = false)
    (s : Session) : command.effect s = s := by
  rw [effect, h]
  rfl

theorem kept_effect (command : Command) {s : Session} (h : s.Kept) :
    (command.effect s).Kept ∧ (command.effect s).config = s.config := by
  rw [effect]
  split
  · obtain ⟨hkept, -, hconfig⟩ := Session.kept_eval h (Text.trimBlankEnd command.source) {}
    exact ⟨hkept, hconfig⟩
  · exact ⟨h, rfl⟩

end Command

/-! ### Storing and taking up again -/

/-- No text has more bytes than an image can count. -/
structure Session.Storable (s : Session) : Prop where
  names : ∀ name ∈ s.names.names.toList, (Text.utf8 name).length < Image.limit64
  constants : ∀ value ∈ s.constants.values.toList, Image.Writable value
  values : ∀ value ∈ s.slots.values.toList, Image.Writable value

instance : DecidablePred Image.Writable
  | .string text => inferInstanceAs (Decidable ((Text.utf8 text).length < Image.limit64))
  | .empty | .number _ | .boolean _ => inferInstanceAs (Decidable True)

instance (s : Session) : Decidable s.Storable :=
  decidable_of_iff
    ((∀ name ∈ s.names.names.toList, (Text.utf8 name).length < Image.limit64) ∧
      (∀ value ∈ s.constants.values.toList, Image.Writable value) ∧
      ∀ value ∈ s.slots.values.toList, Image.Writable value)
    ⟨fun ⟨hnames, hconstants, hvalues⟩ => ⟨hnames, hconstants, hvalues⟩,
      fun h => ⟨h.names, h.constants, h.values⟩⟩

/-- All that an image of a session counts, beside the bytes of texts, are entries of tables
that an operand can name. -/
theorem Session.Kept.writable_snapshot {s : Session} (h : s.Kept) (hstorable : s.Storable) :
    s.snapshot.Writable := by
  have hlimit : UInt32.size < Image.limit64 := by decide
  have hnames : s.names.size < Image.limit64 :=
    Nat.lt_of_le_of_lt h.orderly.regular.addressable hlimit
  refine ⟨⟨hnames, hstorable.names⟩, ?_, ⟨?_, hstorable.constants⟩, ⟨?_, hstorable.values⟩⟩
  · have hcategories := h.orderly.regular.size_eq
    rw [← hcategories] at hnames
    exact hnames
  · exact Nat.lt_of_le_of_lt h.orderly.addressable hlimit
  · exact Nat.lt_of_le_of_lt h.fits.size_le hnames

/-- A new session with the same limits that takes over a snapshot is the session that the
snapshot was taken of. -/
theorem Session.Kept.restore_snapshot {s : Session} (h : s.Kept) :
    (Session.new s.config).restore s.snapshot = .ok () s := by
  have hle : s.snapshot.slots.size ≤ (Session.new s.config).slots.capacity.toNat := by
    change s.slots.size ≤ s.config.slotCapacity.toNat
    rw [← h.fits.capacity_eq]
    exact h.fits.bounded
  rw [Session.restore_of_le hle]
  obtain ⟨config, names, constants, ⟨values, capacity⟩⟩ := s
  have hcapacity : capacity = config.slotCapacity := h.fits.capacity_eq
  subst hcapacity
  rfl

section

variable {stackSize : Nat} {maxSteps : Option Nat} {image image' : Option Bytes} {s : Session}
  {command : Command} {bytes : Bytes}

/-- The session that the program takes up when it finds the image. -/
def resumed (stackSize : Nat) (maxSteps : Option Nat) (image : Option Bytes) :
    Except SessionError Session :=
  Invocation.openSession { stackSize, maxSteps, image }

/-- The program takes up exactly the session that was stored. -/
theorem resumed_encode (hkept : s.Kept)
    (hconfig : s.config = { stackCapacity := stackSize, maxSteps := maxSteps })
    (hstorable : s.Storable) :
    resumed stackSize maxSteps (some s.snapshot.encode) = .ok s := by
  have hdecode : Snapshot.decode (s.snapshot.encode ++ []) = .ok s.snapshot :=
    Snapshot.decode_encode_append_iff.mpr (hkept.writable_snapshot hstorable)
  rw [List.append_nil] at hdecode
  rw [resumed, Invocation.openSession]
  dsimp only
  rw [hdecode]
  dsimp only
  rw [Invocation.config, ← hconfig, hkept.restore_snapshot]

/-- What comes of a run that takes up a session and serves a command. -/
theorem run_of_resumed (hresumed : resumed stackSize maxSteps image = .ok s)
    (hact : ∀ written, command.act ⟨s, .taking written⟩ =
      .ok () ⟨command.effect s, .taking (written ++ bytes)⟩) :
    (command.invocation stackSize maxSteps image).run command.input =
      ⟨0, bytes.toArray, none, some (command.effect s).snapshot.encode⟩ := by
  have hopen : (command.invocation stackSize maxSteps image).openSession = .ok s := hresumed
  -- with a source text nothing is read from the input
  have hsource : (command.invocation stackSize maxSteps image).isInteractive = false :=
    Bool.and_false _
  have hinteract : (command.invocation stackSize maxSteps image).interact command.input =
      command.act := by
    rw [Invocation.interact, hsource]
    rfl
  have houtput : (#[] : Array UInt8) ++ bytes = bytes.toArray := by
    apply Array.ext'
    rw [Array.toList_appendList]
    rfl
  rw [Invocation.run, hopen]
  change Invocation.ended _ (Invocation.interact _ _ ⟨s, .taking #[]⟩) = _
  rw [hinteract, hact, houtput]
  rfl

/-- The program that finds the image takes up the session, which is one that inputs have left
with these limits. -/
structure Resumes (stackSize : Nat) (maxSteps : Option Nat) (image : Option Bytes)
    (s : Session) : Prop where
  resumed_eq : resumed stackSize maxSteps image = .ok s
  kept : s.Kept
  config_eq : s.config = { stackCapacity := stackSize, maxSteps := maxSteps }

theorem resumes_none (stackSize : Nat) (maxSteps : Option Nat) :
    Resumes stackSize maxSteps none
      (.new { stackCapacity := stackSize, maxSteps := maxSteps }) :=
  ⟨rfl, Session.kept_new _, rfl⟩

/-- The image that a run leaves holds the session after the command. -/
theorem Resumes.effect (h : Resumes stackSize maxSteps image s)
    (hstorable : (command.effect s).Storable) :
    Resumes stackSize maxSteps (some (command.effect s).snapshot.encode) (command.effect s) := by
  obtain ⟨hkept, hconfig⟩ := command.kept_effect h.kept
  have hconfig' := hconfig.trans h.config_eq
  exact ⟨resumed_encode hkept hconfig' hstorable, hkept, hconfig'⟩

theorem runAll_cons (h : Resumes stackSize maxSteps image s)
    (hact : ∀ written, command.act ⟨s, .taking written⟩ =
      .ok () ⟨command.effect s, .taking (written ++ bytes)⟩) (commands : List Command) :
    runAll stackSize maxSteps image (command :: commands) =
      ⟨0, bytes.toArray, none, some (command.effect s).snapshot.encode⟩ ::
        runAll stackSize maxSteps (some (command.effect s).snapshot.encode) commands := by
  rw [runAll, run_of_resumed h.resumed_eq hact]

end

/-! ### All commands -/

/-- One session takes the commands, with an output that has something written already.  The
consoles are those after each command. -/
inductive Served : Session → Array UInt8 → List Command → List Console → Prop where
  | nil {s : Session} {written : Array UInt8} : Served s written [] []
  | cons {s : Session} {written : Array UInt8} {command : Command} {commands : List Command}
      {consoles : List Console} {bytes : Bytes}
      (first : ∀ before, command.act ⟨s, .taking before⟩ =
        .ok () ⟨command.effect s, .taking (before ++ bytes)⟩)
      (others : Served (command.effect s) (written ++ bytes) commands consoles) :
      Served s written (command :: commands)
        (⟨command.effect s, .taking (written ++ bytes)⟩ :: consoles)

theorem exists_served (s : Session) (written : Array UInt8) (commands : List Command) :
    ∃ consoles, Served s written commands consoles := by
  induction commands generalizing s written with
  | nil => exact ⟨[], .nil⟩
  | cons command commands ih =>
    obtain ⟨bytes, hact⟩ := command.act_taking s
    obtain ⟨consoles, hothers⟩ := ih (command.effect s) (written ++ bytes)
    exact ⟨_, .cons hact hothers⟩

namespace Served

variable {stackSize : Nat} {maxSteps : Option Nat} {image image' : Option Bytes} {s : Session}
  {written : Array UInt8} {commands : List Command} {consoles : List Console}

theorem serveAll_eq (h : Served s written commands consoles) :
    Console.serveAll ⟨s, .taking written⟩ commands = .ok consoles := by
  induction h with
  | nil => rfl
  | cons first _ ih =>
    rw [Console.serveAll, first]
    dsimp only
    rw [ih]
    rfl

/-- The runs leave the images of the session, and write what the console writes. -/
theorem runAll_eq (h : Served s written commands consoles)
    (hresumes : Resumes stackSize maxSteps image s)
    (hstorable : ∀ c ∈ consoles, c.session.Storable) :
    (∀ d ∈ runAll stackSize maxSteps image commands, d.exitCode = 0 ∧ d.error = none) ∧
      (runAll stackSize maxSteps image commands).map (·.image) =
        consoles.map (fun c => some c.session.snapshot.encode) ∧
      ((runAll stackSize maxSteps image commands).map (·.output)).scanl (· ++ ·) written =
        written :: consoles.map (·.out.written) := by
  induction h generalizing image with
  | nil => exact ⟨fun _ hd => absurd hd List.not_mem_nil, rfl, rfl⟩
  | cons first _ ih =>
    obtain ⟨hstorable₁, hstorable₂⟩ := List.forall_mem_cons.mp hstorable
    obtain ⟨hends, himages, houtputs⟩ := ih (hresumes.effect hstorable₁) hstorable₂
    rw [runAll_cons hresumes first]
    refine ⟨List.forall_mem_cons.mpr ⟨⟨rfl, rfl⟩, hends⟩, ?_, ?_⟩
    · rw [List.map_cons, List.map_cons, himages]
    · rw [List.map_cons, List.map_cons, List.scanl_cons]
      dsimp only
      rw [Sink.append_toArray, houtputs]
      rfl

/-- Runs that run nothing do not matter to the others. -/
theorem runAll_filter (h : Served s written commands consoles)
    (hresumes : Resumes stackSize maxSteps image s)
    (hresumes' : Resumes stackSize maxSteps image' s)
    (hstorable : ∀ c ∈ consoles, c.session.Storable) :
    ((commands.zip (runAll stackSize maxSteps image commands)).filter (·.1.evaluates)).map
        Prod.snd =
      runAll stackSize maxSteps image' (commands.filter (·.evaluates)) := by
  induction h generalizing image image' with
  | nil => rfl
  | @cons s written command commands consoles bytes first others ih =>
    obtain ⟨hstorable₁, hstorable₂⟩ := List.forall_mem_cons.mp hstorable
    have hnext := hresumes.effect hstorable₁
    rw [runAll_cons hresumes first, List.zip_cons_cons]
    cases hevaluates : command.evaluates with
    | true =>
      -- both runs take up the same session, so they write the same and leave the same image
      simp only [List.filter_cons, hevaluates, if_true, List.map_cons]
      rw [runAll_cons hresumes' first, ih hnext hnext hstorable₂]
    | false =>
      -- the image holds the same session as before
      simp only [List.filter_cons, hevaluates, Bool.false_eq_true, if_false]
      rw [command.effect_of_not_evaluates hevaluates] at hnext ih ⊢
      exact ih hnext hresumes' hstorable₂

/-- A command that runs nothing leaves the session as the command before it did. -/
theorem session_eq (h : Served s written commands consoles) {k : Nat} {command : Command}
    (hcommand : commands[k + 1]? = some command) (hquiet : command.evaluates = false) :
    consoles[k + 1]?.map (·.session) = consoles[k]?.map (·.session) := by
  induction h generalizing k with
  | nil => cases hcommand
  | cons first others ih =>
    rw [List.getElem?_cons_succ] at hcommand ⊢
    cases k with
    | succ k => exact ih hcommand
    | zero =>
      cases others with
      | nil => cases hcommand
      | cons second _ =>
        cases hcommand
        rw [command.effect_of_not_evaluates hquiet]
        rfl

end Served

/-- **An image is transparent.**  The program is started once for each command, with an image
that does not exist at first.  One console takes the same commands, and fails at none.  If all
texts that its session comes to hold can be stored, then every run succeeds, the image after
each run is that of the session at that point, and the runs up to each point have written what
the console has.  A run that runs nothing leaves the image as the run before it did, and the
other runs write and leave the same without it. -/
theorem runAll_transparent (stackSize : Nat) (maxSteps : Option Nat) (commands : List Command) :
    ∃ consoles,
      Console.serveAll
        { session := .new { stackCapacity := stackSize, maxSteps := maxSteps } } commands =
          .ok consoles ∧
      ((∀ c ∈ consoles, c.session.Storable) →
        let runs := runAll stackSize maxSteps none commands
        (∀ d ∈ runs, d.exitCode = 0 ∧ d.error = none) ∧
        runs.map (·.image) = consoles.map (fun c => some c.session.snapshot.encode) ∧
        (runs.map (·.output)).scanl (· ++ ·) #[] = #[] :: consoles.map (·.out.written) ∧
        (∀ k command, commands[k + 1]? = some command → command.evaluates = false →
          (runs.map (·.image))[k + 1]? = (runs.map (·.image))[k]?) ∧
        ((commands.zip runs).filter (·.1.evaluates)).map Prod.snd =
          runAll stackSize maxSteps none (commands.filter (·.evaluates))) := by
  obtain ⟨consoles, hserved⟩ := exists_served
    (.new { stackCapacity := stackSize, maxSteps := maxSteps }) #[] commands
  refine ⟨consoles, hserved.serveAll_eq, fun hstorable => ?_⟩
  have hresumes := resumes_none stackSize maxSteps
  obtain ⟨hends, himages, houtputs⟩ := hserved.runAll_eq hresumes hstorable
  refine ⟨hends, himages, houtputs, ?_, hserved.runAll_filter hresumes hresumes hstorable⟩
  intro k command hcommand hquiet
  have hsession := hserved.session_eq hcommand hquiet
  rw [himages, List.getElem?_map, List.getElem?_map]
  have hencode := congrArg (Option.map fun s : Session => some s.snapshot.encode) hsession
  rw [Option.map_map, Option.map_map] at hencode
  exact hencode

/-- A string is stored, a run shows some code and runs nothing, the string is taken up again,
and a declaration fails. -/
def interruptedCommands : List Command :=
  [{ mode := .repl, source := "var a = \"x\"  " }, { mode := .compiler, source := "print a" },
    { mode := .vm, source := "a + \"y\"" }, { mode := .repl, source := "var b = 1 / 0\n" }]

theorem runAll_interruptedCommands :
    ∃ consoles,
      Console.serveAll { session := .new { stackCapacity := 4, maxSteps := some 3 } }
          interruptedCommands = .ok consoles ∧
        (∀ c ∈ consoles, c.session.Storable) ∧
        (runAll 4 (some 3) none interruptedCommands).map (·.image) =
          consoles.map (fun c => some c.session.snapshot.encode) ∧
        ((runAll 4 (some 3) none interruptedCommands).map (·.image))[1]? =
          ((runAll 4 (some 3) none interruptedCommands).map (·.image))[0]? ∧
        ((runAll 4 (some 3) none interruptedCommands).map (·.output))[2]? =
          some #[120, 121, 10] := by
  obtain ⟨consoles, hserve, htransparent⟩ := runAll_transparent 4 (some 3) interruptedCommands
  have hall : ∀ consoles ∈ (Console.serveAll
      { session := .new { stackCapacity := 4, maxSteps := some 3 } }
      interruptedCommands).toOption, ∀ c ∈ consoles, c.session.Storable := by
    decide +kernel
  have hstorable : ∀ c ∈ consoles, c.session.Storable := by
    refine hall consoles ?_
    rw [hserve]
    rfl
  obtain ⟨-, himages, -, hquiet, -⟩ := htransparent hstorable
  exact ⟨consoles, hserve, hstorable, himages, hquiet 0 _ rfl rfl, by decide +kernel⟩

end StackLang
