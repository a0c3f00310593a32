import ColumnCast.Cli.Program
import ColumnCast.Proofs.Traversal

/-!
# `ColumnCast.Proofs.Cli.Run`: how runs end

A run reads files, logs, and ends with a result or a failure. What it logs
never decides how it ends, so a run over given files has one end
(`Run.Ends`), and a specification says which: `Run.Spec` lists the results
and the failures, and holds of a sequence of steps if it holds of the
steps (`Run.Spec.bind`).

The steps that several commands share are specified here: the text of a
file, and what is read from it for a plan or a catalog. `Host Id` is a
host whose files stay as they are.
-/

set_option autoImplicit false

namespace ColumnCast.Cli

variable {α β ε : Type}

/-- A run ends with a result, whatever was logged before it. -/
def Run.Ends (run : Run Id α) (result : Except String α) : Prop :=
  ∀ logged, (run.run.run logged).run.1 = result

/-- Which results a run ends with, and which failures. -/
structure Run.Spec (run : Run Id α) (gives : α → Prop) (fails : String → Prop) : Prop where
  ok : ∀ a, run.Ends (.ok a) ↔ gives a
  error : ∀ message, run.Ends (.error message) ↔ fails message
  ends : ∃ result, run.Ends result

namespace Run

theorem Ends.unique {run : Run Id α} {result result' : Except String α} (one : run.Ends result)
    (other : run.Ends result') : result = result' :=
  (one []).symm.trans (other [])

/-- The second of two steps starts from what the first one has logged. -/
theorem run_bind (first : Run Id α) (next : α → Run Id β) (logged : List Log.Entry) :
    (first >>= next).run.run logged
      = (ExceptT.bindCont next (first.run.run logged).run.1).run (first.run.run logged).run.2 :=
  rfl

theorem ends_bind_ok {first : Run Id α} {next : α → Run Id β} {a : α} {result : Except String β}
    (done : first.Ends (.ok a)) (ends : (next a).Ends result) : (first >>= next).Ends result := by
  intro logged
  rw [run_bind, done logged]
  exact ends _

theorem ends_bind_error {first : Run Id α} {next : α → Run Id β} {message : String}
    (failed : first.Ends (.error message)) : (first >>= next).Ends (.error message) := by
  intro logged
  rw [run_bind, failed logged]
  rfl

namespace Spec

variable {run : Run Id α} {gives gives' : α → Prop} {fails fails' : String → Prop}

theorem of_ends (result : Except String α) (ends : run.Ends result) :
    run.Spec (fun a => result = .ok a) (fun message => result = .error message) where
  ok _ := ⟨fun other => ends.unique other, fun same => same ▸ ends⟩
  error _ := ⟨fun other => ends.unique other, fun same => same ▸ ends⟩
  ends := ⟨result, ends⟩

theorem congr (spec : run.Spec gives fails) (results : ∀ a, gives a ↔ gives' a)
    (failures : ∀ message, fails message ↔ fails' message) : run.Spec gives' fails' where
  ok a := (spec.ok a).trans (results a)
  error message := (spec.error message).trans (failures message)
  ends := spec.ends

/-- A run gives a result or fails. -/
theorem gives_or_fails (spec : run.Spec gives fails) :
    (∃ a, gives a) ∨ ∃ message, fails message := by
  obtain ⟨result | result, ends⟩ := spec.ends
  · exact Or.inr ⟨result, (spec.error result).mp ends⟩
  · exact Or.inl ⟨result, (spec.ok result).mp ends⟩

theorem not_both (spec : run.Spec gives fails) {a : α} {message : String} (given : gives a) :
    ¬fails message := fun failed =>
  absurd (((spec.ok a).mpr given).unique ((spec.error message).mpr failed)) (by simp)

/-- A run gives one result. -/
theorem unique (spec : run.Spec gives fails) {a a' : α} (given : gives a) (given' : gives a') :
    a = a' :=
  Except.ok.inj (((spec.ok a).mpr given).unique ((spec.ok a').mpr given'))

theorem pure (a : α) : Run.Spec (Pure.pure a) (· = a) (fun _ => False) :=
  (of_ends (.ok a) fun _ => rfl).congr (by simp [eq_comm]) (by simp)

theorem throw (message : String) :
    Run.Spec (α := α) (MonadExcept.throw message) (fun _ => False) (· = message) :=
  (of_ends (.error message) fun _ => rfl).congr (by simp) (by simp [eq_comm])

theorem log (level : Log.Level) (topic : Topic) (message : String) :
    Run.Spec (Cli.log level topic message) (fun _ => True) (fun _ => False) :=
  (of_ends (.ok ()) fun _ => rfl).congr (by simp) (by simp)

theorem lift (a : Id α) : Run.Spec (liftM a : Run Id α) (· = a.run) (fun _ => False) :=
  (of_ends (.ok a.run) fun _ => rfl).congr (by simp [eq_comm]) (by simp)

theorem orFail (wording : ε → String) (result : Except ε α) :
    Run.Spec (Cli.orFail wording result) (fun a => result = .ok a)
      (fun message => ∃ e, result = .error e ∧ message = wording e) := by
  cases result with
  | ok a => exact (pure a).congr (by simp [eq_comm]) (by simp)
  | error e => exact (throw (wording e)).congr (by simp) (by simp)

/-- A sequence of two steps gives what the second gives, and fails where one of them does. -/
theorem bind {next : α → Run Id β} {gives' : α → β → Prop} {fails' : α → String → Prop}
    (first : run.Spec gives fails)
    (second : ∀ a, gives a → (next a).Spec (gives' a) (fails' a)) :
    (run >>= next).Spec (fun b => ∃ a, gives a ∧ gives' a b)
      (fun message => fails message ∨ ∃ a, gives a ∧ fails' a message) := by
  obtain ⟨result, ends⟩ := first.ends
  -- The first step ends in one way only, so one side of each disjunction is out.
  cases result with
  | error failure =>
      have failed := (first.error failure).mp ends
      have none : ∀ a, ¬gives a := fun a given => first.not_both given failed
      refine (of_ends _ (ends_bind_error ends)).congr (fun b => by simp [none]) fun message => ?_
      simp only [none, false_and, exists_false, or_false, Except.error.injEq]
      constructor
      · rintro rfl
        exact failed
      · exact fun other => Except.error.inj (ends.unique ((first.error message).mpr other))
  | ok a =>
      have given := (first.ok a).mp ends
      have only : ∀ a', gives a' ↔ a' = a := fun a' =>
        ⟨fun other => first.unique other given, fun same => same ▸ given⟩
      have done : ∀ message, ¬fails message := fun _ => first.not_both given
      obtain ⟨result, ends'⟩ := (second a given).ends
      refine (of_ends _ (ends_bind_ok ends ends')).congr (fun b => ?_) fun message => ?_
      · simp only [only, exists_eq_left, ← (second a given).ok b]
        exact ⟨fun same => same ▸ ends', fun other => ends'.unique other⟩
      · simp only [only, done, exists_eq_left, false_or, ← (second a given).error message]
        exact ⟨fun same => same ▸ ends', fun other => ends'.unique other⟩

/-- What follows a step needs to be looked at for the results of the step only. -/
theorem bind_congr {next next' : α → Run Id β} (spec : run.Spec gives fails)
    (same : ∀ a, gives a → next a = next' a) : run >>= next = run >>= next' := by
  obtain ⟨result, ends⟩ := spec.ends
  -- The runs are functions of what was logged before; with the first result known, both go on.
  funext logged
  show (run >>= next).run.run logged = (run >>= next').run.run logged
  rw [run_bind, run_bind, ends logged]
  cases result with
  | error message => rfl
  | ok a =>
      show (next a).run _ = (next' a).run _
      rw [same a ((spec.ok a).mp ends)]

end Spec

end Run

theorem orFail_ok (wording : ε → String) (a : α) :
    (orFail wording (.ok a) : Run Id α) = pure a := rfl

theorem orFail_mapError (wording : ε → String) (result : Except ε α) :
    (orFail id (result.mapError wording) : Run Id α) = orFail wording result := by
  cases result <;> rfl

theorem orFail_bind (wording : ε → String) (result : Except ε α) (next : α → Except ε β) :
    (orFail wording (result >>= next) : Run Id β)
      = orFail wording result >>= fun a => orFail wording (next a) := by
  cases result <;> rfl

/-! ### Files -/

namespace Host

variable {host : Host Id} {path : String}

/-- A file holds a text. -/
def HasText (host : Host Id) (path text : String) : Prop :=
  ∃ bytes, host.read path = .ok bytes
    ∧ String.fromUTF8? (ByteArray.mk bytes.toArray) = some text

/-- Why there is no text in a file. -/
inductive NoText (host : Host Id) (path : String) : FileFault → Prop
  | unread {fault : FileFault} (refused : host.read path = .error fault) : NoText host path fault
  | notUtf8 {bytes : List UInt8} (read : host.read path = .ok bytes)
      (invalid : String.fromUTF8? (ByteArray.mk bytes.toArray) = none) : NoText host path .notUtf8

theorem spec_readText (host : Host Id) (context path : String) :
    (readText host context path).Spec (host.HasText path)
      (fun message => ∃ fault, host.NoText path fault ∧ message = within context fault.message) := by
  refine ((Run.Spec.lift (host.read path)).bind fun result _ =>
    (Run.Spec.orFail (fun fault => within context fault.message) result).bind fun bytes _ =>
      (?_ : Run.Spec _ (String.fromUTF8? (ByteArray.mk bytes.toArray) = some ·)
        fun message => String.fromUTF8? (ByteArray.mk bytes.toArray) = none
          ∧ message = within context FileFault.notUtf8.message)).congr
      (fun text => ?_) fun message => ?_
  · cases String.fromUTF8? (ByteArray.mk bytes.toArray) with
    | some text => exact (Run.Spec.pure text).congr (by simp [eq_comm]) (by simp)
    | none => exact (Run.Spec.throw _).congr (by simp) (by simp)
  · constructor
    · rintro ⟨_, rfl, bytes, read, valid⟩
      exact ⟨bytes, read, valid⟩
    · rintro ⟨bytes, read, valid⟩
      exact ⟨_, rfl, bytes, read, valid⟩
  · constructor
    · rintro (none | ⟨_, rfl, ⟨fault, refused, rfl⟩ | ⟨bytes, read, invalid, rfl⟩⟩)
      · exact none.elim
      · exact ⟨fault, .unread refused, rfl⟩
      · exact ⟨_, .notUtf8 read invalid, rfl⟩
    · rintro ⟨fault, ⟨refused⟩ | ⟨read, invalid⟩, rfl⟩
      · exact Or.inr ⟨_, rfl, Or.inl ⟨fault, refused, rfl⟩⟩
      · exact Or.inr ⟨_, rfl, Or.inr ⟨_, read, invalid, rfl⟩⟩

theorem readText_eq {text : String} (has : host.HasText path text) (context : String) :
    readText host context path = pure text := by
  obtain ⟨bytes, read, valid⟩ := has
  show (pure (host.read path) >>= fun result => _) = (_ : Run Id String)
  rw [pure_bind, read]
  simp only [orFail, pure_bind, valid]

end Host

namespace Host

/-- The bytes of a text. -/
def textBytes (text : String) : List UInt8 := text.toUTF8.data.toList

/-- A host that has these files and no others, and nothing on its input. -/
def ofFiles (files : List (String × List UInt8)) : Host Id where
  read path :=
    match files.lookup path with
    | some bytes => .ok bytes
    | none => .error .notFound
  input := []

theorem hasText_ofFiles {files : List (String × List UInt8)} {path text : String}
    (found : files.lookup path = some (textBytes text)) : (ofFiles files).HasText path text := by
  refine ⟨textBytes text, ?_, ?_⟩
  · simp only [ofFiles, found]
  · unfold textBytes
    simp only [String.fromUTF8?, Array.toArray_toList]
    exact dif_pos text.isValidUTF8

end Host

/-! ### Plans and catalogs -/

/-- A kind of configuration file: what is said where its text cannot be read or does not make
sense, and how the text is read. -/
structure FileKind (α ε : Type) where
  reading : String
  loading : String
  parse : String → Except ε α
  wording : ε → String

namespace FileKind

/-- Files with plans. -/
def plan : FileKind Plan PlanError :=
  ⟨"Reading import plan ", "Loading plan ", Plan.ofYaml, PlanError.message⟩

/-- Files with catalogs. -/
def catalog : FileKind Catalog CastError :=
  ⟨"Reading format catalog ", "Parsing format catalog ", Catalog.ofYaml, CastError.message⟩

variable (kind : FileKind α ε) (host : Host Id) (path : String)

/-- A file has a text that makes sense. -/
def Holds (a : α) : Prop := ∃ text, host.HasText path text ∧ kind.parse text = .ok a

/-- A file has no text, or one that does not make sense; and what is said of it. -/
inductive Fails : String → Prop
  | reading {fault : FileFault} (none : host.NoText path fault) :
      Fails (within (kind.reading ++ Text.shownPath path) fault.message)
  | parsing {text : String} {e : ε} (has : host.HasText path text)
      (refused : kind.parse text = .error e) :
      Fails (within (kind.loading ++ Text.shownPath path) (kind.wording e))

/-- Whatever is logged of a file that makes sense, it is read. -/
theorem spec (topic : Topic) (logged : α → String) :
    Run.Spec (do
        let text ← readText host (kind.reading ++ Text.shownPath path) path
        let a ← orFail (fun e => within (kind.loading ++ Text.shownPath path) (kind.wording e))
          (kind.parse text)
        log .debug topic (logged a)
        return a) (kind.Holds host path) (kind.Fails host path) := by
  refine ((host.spec_readText _ path).bind fun text _ =>
    (Run.Spec.orFail _ (kind.parse text)).bind fun a _ =>
      (Run.Spec.log .debug topic (logged a)).bind fun _ _ => .pure a).congr
        (fun a => ?_) fun message => ?_
  · constructor
    · rintro ⟨text, has, _, parsed, -, -, rfl⟩
      exact ⟨text, has, parsed⟩
    · rintro ⟨text, has, parsed⟩
      exact ⟨text, has, a, parsed, (), trivial, rfl⟩
  · constructor
    · rintro (⟨fault, none, rfl⟩ | ⟨text, has, ⟨e, refused, rfl⟩ | ⟨_, -, none⟩⟩)
      · exact .reading none
      · exact .parsing has refused
      · simp at none
    · rintro (⟨none⟩ | ⟨has, refused⟩)
      · exact Or.inl ⟨_, none, rfl⟩
      · exact Or.inr ⟨_, has, Or.inl ⟨_, refused, rfl⟩⟩

/-- Whatever is logged of a file that makes sense is the same for files that mean the same. -/
theorem run_congr {host' : Host Id} (topic : Topic) (logged : α → String) {a : α}
    (holds : kind.Holds host path a) (holds' : kind.Holds host' path a) :
    (do
        let text ← readText host (kind.reading ++ Text.shownPath path) path
        let a ← orFail (fun e => within (kind.loading ++ Text.shownPath path) (kind.wording e))
          (kind.parse text)
        log .debug topic (logged a)
        return a : Run Id α)
      = (do
        let text ← readText host' (kind.reading ++ Text.shownPath path) path
        let a ← orFail (fun e => within (kind.loading ++ Text.shownPath path) (kind.wording e))
          (kind.parse text)
        log .debug topic (logged a)
        return a) := by
  obtain ⟨text, has, parsed⟩ := holds
  obtain ⟨text', has', parsed'⟩ := holds'
  rw [Host.readText_eq has, Host.readText_eq has']
  simp only [pure_bind, parsed, parsed', orFail]

end FileKind

theorem spec_loadPlan (host : Host Id) (path : String) :
    (loadPlan host path).Spec (FileKind.plan.Holds host path) (FileKind.plan.Fails host path) :=
  FileKind.plan.spec host path .plan _

theorem spec_loadCatalog (host : Host Id) (path : String) :
    (loadCatalog host path).Spec (FileKind.catalog.Holds host path)
      (FileKind.catalog.Fails host path) :=
  FileKind.catalog.spec host path .catalog _

/-- The path of the catalog that is given, or else of that of the plan. -/
def catalogPath? (given : Option String) (planPath : String) (plan : Plan) : Option String :=
  given <|> plan.catalog.map (Path.join (Path.directory planPath))

/-- The catalog at a path, or the built-in one without a path. -/
def HasCatalog (host : Host Id) : (path : Option String) → Catalog → Prop
  | some path, catalog => FileKind.catalog.Holds host path catalog
  | none, catalog => catalog = .builtin

/-- There is no catalog at a path. -/
def NoCatalog (host : Host Id) (path : Option String) (message : String) : Prop :=
  ∃ file, path = some file ∧ FileKind.catalog.Fails host file message

theorem spec_chooseCatalog (host : Host Id) (given : Option String) (planPath : String)
    (plan : Plan) :
    (chooseCatalog host given planPath plan).Spec
      (HasCatalog host (catalogPath? given planPath plan))
      (NoCatalog host (catalogPath? given planPath plan)) := by
  unfold chooseCatalog catalogOfPlan catalogPath? NoCatalog
  cases given with
  | some path =>
      exact (spec_loadCatalog host path).congr (fun _ => Iff.rfl) fun message => by simp
  | none =>
      cases plan.catalog with
      | some path =>
          exact (spec_loadCatalog host _).congr (fun _ => Iff.rfl) fun message => by simp
      | none => exact (Run.Spec.pure _).congr (fun _ => Iff.rfl) fun message => by simp

section

variable {host host' : Host Id} {path : String}

theorem loadPlan_congr {plan : Plan} (holds : FileKind.plan.Holds host path plan)
    (holds' : FileKind.plan.Holds host' path plan) : loadPlan host path = loadPlan host' path :=
  FileKind.plan.run_congr host path .plan _ holds holds'

theorem loadCatalog_congr {catalog : Catalog} (holds : FileKind.catalog.Holds host path catalog)
    (holds' : FileKind.catalog.Holds host' path catalog) :
    loadCatalog host path = loadCatalog host' path :=
  FileKind.catalog.run_congr host path .catalog _ holds holds'

theorem chooseCatalog_congr {given : Option String} {planPath : String} {plan : Plan}
    {catalog : Catalog} (has : HasCatalog host (catalogPath? given planPath plan) catalog)
    (has' : HasCatalog host' (catalogPath? given planPath plan) catalog) :
    chooseCatalog host given planPath plan = chooseCatalog host' given planPath plan := by
  unfold chooseCatalog catalogOfPlan
  unfold catalogPath? at has has'
  cases given with
  | some path => exact loadCatalog_congr has has'
  | none =>
      cases named : plan.catalog with
      | none => rfl
      | some path =>
          rw [named] at has has'
          exact loadCatalog_congr has has'

end

/-! ### Configurations -/

/-- A plan and the catalog that goes with it. -/
structure Configured (host : Host Id) (planPath : String) (given : Option String)
    (plan : Plan) (catalog : Catalog) : Prop where
  planned : FileKind.plan.Holds host planPath plan
  supplied : HasCatalog host (catalogPath? given planPath plan) catalog

/-- The plan fails, or else the catalog that goes with it. -/
inductive Unconfigured (host : Host Id) (planPath : String) (given : Option String) :
    String → Prop
  | plan {message : String} (failed : FileKind.plan.Fails host planPath message) :
      Unconfigured host planPath given message
  | catalog {plan : Plan} {message : String} (holds : FileKind.plan.Holds host planPath plan)
      (none : NoCatalog host (catalogPath? given planPath plan) message) :
      Unconfigured host planPath given message

/-- A run that begins with its configuration. -/
theorem spec_configured {host : Host Id} {planPath : String} {given : Option String}
    {next : Plan → Catalog → Run Id α} {gives : Plan → Catalog → α → Prop}
    {fails : Plan → Catalog → String → Prop}
    (rest : ∀ plan catalog, (next plan catalog).Spec (gives plan catalog) (fails plan catalog)) :
    Run.Spec (do
        let plan ← loadPlan host planPath
        let catalog ← chooseCatalog host given planPath plan
        next plan catalog)
      (fun a => ∃ plan catalog, Configured host planPath given plan catalog
        ∧ gives plan catalog a)
      (fun message => Unconfigured host planPath given message
        ∨ ∃ plan catalog, Configured host planPath given plan catalog
          ∧ fails plan catalog message) := by
  refine ((spec_loadPlan host planPath).bind fun plan _ =>
    (spec_chooseCatalog host given planPath plan).bind fun catalog _ => rest plan catalog).congr
      (fun a => ?_) fun message => ?_
  · constructor
    · rintro ⟨plan, planned, catalog, supplied, result⟩
      exact ⟨plan, catalog, ⟨planned, supplied⟩, result⟩
    · rintro ⟨plan, catalog, ⟨planned, supplied⟩, result⟩
      exact ⟨plan, planned, catalog, supplied, result⟩
  · constructor
    · rintro (failed | ⟨plan, planned, none | ⟨catalog, supplied, failed⟩⟩)
      · exact Or.inl (.plan failed)
      · exact Or.inl (.catalog planned none)
      · exact Or.inr ⟨plan, catalog, ⟨planned, supplied⟩, failed⟩
    · rintro ((failed | ⟨planned, none⟩) | ⟨plan, catalog, ⟨planned, supplied⟩, failed⟩)
      · exact Or.inl failed
      · exact Or.inr ⟨_, planned, Or.inl none⟩
      · exact Or.inr ⟨plan, planned, Or.inr ⟨catalog, supplied, failed⟩⟩

/-- Two hosts with one configuration: only what follows can tell them apart. -/
theorem Configured.run_congr {host host' : Host Id} {planPath : String} {given : Option String} {plan : Plan}
    {catalog : Catalog} (configured : Configured host planPath given plan catalog)
    (configured' : Configured host' planPath given plan catalog)
    {next next' : Plan → Catalog → Run Id α} (same : next plan catalog = next' plan catalog) :
    (do
        let plan ← loadPlan host planPath
        let catalog ← chooseCatalog host given planPath plan
        next plan catalog)
      = (do
        let plan ← loadPlan host' planPath
        let catalog ← chooseCatalog host' given planPath plan
        next' plan catalog) := by
  -- Both hosts log the same while they read, and on the second the files hold nothing else.
  have planned := spec_loadPlan host' planPath
  have supplied := spec_chooseCatalog host' given planPath plan
  rw [loadPlan_congr configured.planned configured'.planned]
  refine planned.bind_congr fun other holds => ?_
  obtain rfl := planned.unique holds configured'.planned
  rw [chooseCatalog_congr configured.supplied configured'.supplied]
  refine supplied.bind_congr fun other holds => ?_
  obtain rfl := supplied.unique holds configured'.supplied
  exact same

/-! ### Outcomes -/

/-- A text of whole lines: what is written after it begins a line. -/
def IsLines (text : String) : Prop := text = "" ∨ ∃ before, text = before ++ "\n"

theorem IsLines.append {text text' : String} (lines : IsLines text) (lines' : IsLines text') :
    IsLines (text ++ text') := by
  rcases lines' with rfl | ⟨before, rfl⟩
  · rwa [String.append_empty]
  · exact Or.inr ⟨text ++ before, String.append_assoc.symm⟩

theorem isLines_join {texts : List String} (each : ∀ text ∈ texts, IsLines text) :
    IsLines (String.join texts) := by
  induction texts with
  | nil => exact Or.inl String.join_nil
  | cons text texts ih =>
      rw [String.join_cons]
      exact (each text List.mem_cons_self).append
        (ih fun other mem => each other (List.mem_cons_of_mem _ mem))

/-- What a program says of its log filter. -/
theorem isLines_warnings (filter : Log.Filter) : IsLines filter.warnings := by
  refine isLines_join fun text mem => ?_
  obtain ⟨fault, -, rfl⟩ := List.mem_map.mp mem
  exact Or.inr ⟨"warning: " ++ fault ++ ", ignoring it", by simp only [String.append_assoc]; rfl⟩

theorem isLines_logged (entries : List Log.Entry) :
    IsLines (String.join (entries.map Log.Entry.line)) := by
  refine isLines_join fun text mem => ?_
  obtain ⟨entry, -, rfl⟩ := List.mem_map.mp mem
  exact Or.inr ⟨_, rfl⟩

section

variable {host : Host Id} {filter : Option String} {arguments : List String} {command : Command}

/-- The outcome of a program depends on its files only through the run of its command. -/
theorem run_congr {host' : Host Id} (asked : Command.ofArguments? arguments = some command)
    (same : command.run host' = command.run host) :
    run host' filter arguments = run host filter arguments := by
  unfold run
  rw [asked]
  simp only [same]

theorem outcome_of_ok (asked : Command.ofArguments? arguments = some command) {text : String}
    (ends : (command.run host).Ends (.ok text)) :
    (run host filter arguments).run.code = 0 ∧ (run host filter arguments).run.stdout = text := by
  have result := ends []
  unfold run
  rw [asked]
  simp only
  generalize (command.run host).run.run [] = last at result ⊢
  obtain ⟨ended, entries⟩ := last
  obtain rfl : ended = .ok text := result
  exact ⟨rfl, rfl⟩

theorem outcome_of_error (asked : Command.ofArguments? arguments = some command) {message : String}
    (ends : (command.run host).Ends (.error message)) :
    (run host filter arguments).run.code = 1 ∧ (run host filter arguments).run.stdout = ""
      ∧ ∃ logged, IsLines logged
        ∧ (run host filter arguments).run.stderr = logged ++ "error: " ++ message ++ "\n" := by
  have result := ends []
  unfold run
  rw [asked]
  simp only
  generalize (command.run host).run.run [] = last at result ⊢
  obtain ⟨ended, entries⟩ := last
  obtain rfl : ended = .error message := result
  exact ⟨rfl, rfl, _, (isLines_warnings _).append (isLines_logged _), rfl⟩

end

end ColumnCast.Cli
