import PolledTerminal.Proofs.Assembly
import PolledTerminal.Rehearsal
set_option autoImplicit false

/-!
# Commands in a world

What the parts of a command make of a world: parts that only compute or read
leave it as it is, and writing documents can only fail to write.
-/

namespace PolledTerminal

open PolledTerminal.Text (Bytes)
open PolledTerminal.Yaml (Reading Site)

namespace World

variable {α β : Type}

/-- What an action of the program makes of a world. -/
def carryOut (w : World) (a : ExceptT Trouble Rehearsed α) : Option (Except Trouble α × World) :=
  a.run.run w

@[simp] theorem carryOut_pure (w : World) (x : α) : w.carryOut (pure x) = some (.ok x, w) := rfl

@[simp] theorem carryOut_throw (w : World) (t : Trouble) :
    w.carryOut (throw t : ExceptT Trouble Rehearsed α) = some (.error t, w) := rfl

/-- A computation leaves the world as it is. -/
theorem carryOut_compute (w : World) (e : Except Trouble α) :
    w.carryOut (liftM e : ExceptT Trouble Rehearsed α) = some (e, w) := rfl

/-- What the world does is not a trouble of the program. -/
theorem carryOut_lift (w : World) (a : Rehearsed α) :
    w.carryOut (liftM a) = (a.run w).map fun r => (.ok r.1, r.2) := by
  show (a.run w).bind _ = _
  cases a.run w <;> rfl

/-- After a result the rest is carried out; a trouble passes it over. -/
theorem carryOut_bind (w : World) (a : ExceptT Trouble Rehearsed α)
    (f : α → ExceptT Trouble Rehearsed β) :
    w.carryOut (a >>= f) =
      match w.carryOut a with
      | none => none
      | some (.ok x, w') => w'.carryOut (f x)
      | some (.error t, w') => some (.error t, w') := by
  show (a w).bind _ = _
  have hrun : w.carryOut a = a w := rfl
  rw [hrun]
  cases a w with
  | none => rfl
  | some r =>
      obtain ⟨answer, w'⟩ := r
      cases answer <;> rfl

theorem carryOut_bind_of_ok {w w' : World} {a : ExceptT Trouble Rehearsed α} {x : α}
    (h : w.carryOut a = some (.ok x, w')) (f : α → ExceptT Trouble Rehearsed β) :
    w.carryOut (a >>= f) = w'.carryOut (f x) := by
  rw [carryOut_bind, h]

theorem carryOut_bind_of_error {w w' : World} {a : ExceptT Trouble Rehearsed α} {t : Trouble}
    (h : w.carryOut a = some (.error t, w')) (f : α → ExceptT Trouble Rehearsed β) :
    w.carryOut (a >>= f) = some (.error t, w') := by
  rw [carryOut_bind, h]

/-- A result of two parts is a result of each. -/
theorem carryOut_bind_eq_ok {w w' : World} {a : ExceptT Trouble Rehearsed α}
    {f : α → ExceptT Trouble Rehearsed β} {y : β}
    (h : w.carryOut (a >>= f) = some (.ok y, w')) :
    ∃ x w₁, w.carryOut a = some (.ok x, w₁) ∧ w₁.carryOut (f x) = some (.ok y, w') := by
  rw [carryOut_bind] at h
  cases ha : w.carryOut a with
  | none =>
      rw [ha] at h
      cases h
  | some r =>
      obtain ⟨answer, w₁⟩ := r
      rw [ha] at h
      cases answer with
      | error t => cases h
      | ok x => exact ⟨x, w₁, rfl, h⟩

/-! ## Loading -/

/-- Loading reads one file, and what it makes of the contents does not depend on the
world any more. -/
theorem carryOut_file (w : World) (kind : FileKind) (read : Site → Reading α)
    (check : α → Except Trouble Unit) (path : String) :
    w.carryOut (Loading.file host.readFile kind read check path) =
      some (do
        let a ← Loading.parse kind path read (w.files.contents path)
        check a
        return a, w) := by
  have hread : w.carryOut (liftM (host.readFile path)) =
      some (.ok (w.files.contents path), w) := rfl
  unfold Loading.file
  rw [carryOut_bind_of_ok hread, carryOut_bind, carryOut_compute]
  cases Loading.parse kind path read (w.files.contents path) with
  | error t => rfl
  | ok a =>
      dsimp only
      rw [carryOut_bind, carryOut_compute]
      show _ = some (check a >>= fun _ => pure a, w)
      cases check a <;> rfl

/-- A script that reads and is valid is loaded. -/
theorem carryOut_script {w : World} {path : String} {script : Script}
    (hread : (Loading.parse .script path Script.read (w.files.contents path)).toOption =
      some script)
    (hvalid : script.validate = .ok ()) :
    w.carryOut (Loading.script host.readFile path) = some (.ok script, w) := by
  unfold Loading.script
  rw [carryOut_file, toOption_eq_some.mp hread]
  show some (script.validate.mapError Trouble.script >>= fun _ => pure script, w) = _
  rw [hvalid]
  rfl

/-- What has been loaded has passed its check. -/
theorem check_of_carryOut_file {w w' : World} {kind : FileKind} {read : Site → Reading α}
    {check : α → Except Trouble Unit} {path : String} {a : α}
    (h : w.carryOut (Loading.file host.readFile kind read check path) = some (.ok a, w')) :
    check a = .ok () ∧ w' = w := by
  rw [carryOut_file] at h
  obtain ⟨hresult, hworld⟩ := Prod.mk.inj (Option.some.inj h)
  obtain ⟨b, -, hchecked⟩ := bind_eq_ok.mp hresult
  obtain ⟨u, hcheck, hb⟩ := bind_eq_ok.mp hchecked
  cases hb
  exact ⟨hcheck, hworld.symm⟩

/-- Loading leaves the world as it is. -/
theorem exists_carryOut_file (w : World) (kind : FileKind) (read : Site → Reading α)
    (check : α → Except Trouble Unit) (path : String) :
    ∃ answer, w.carryOut (Loading.file host.readFile kind read check path) = some (answer, w) :=
  ⟨_, carryOut_file w kind read check path⟩

theorem exists_carryOut_system (w : World) (path : Option String) :
    ∃ answer, w.carryOut (Loading.system host.readFile path) = some (answer, w) := by
  cases path with
  | none => exact ⟨_, rfl⟩
  | some path =>
      dsimp only [Loading.system]
      obtain ⟨⟨t⟩ | ⟨manifest⟩, hmanifest⟩ := exists_carryOut_file w .manifest Manifest.read
        (fun manifest => manifest.validate.mapError .manifest) path
      · exact ⟨_, carryOut_bind_of_error hmanifest _⟩
      · obtain ⟨⟨t⟩ | ⟨board⟩, hboard⟩ := exists_carryOut_file w .board Board.read
          (fun _ => .ok ()) (FilePath.beside path manifest.board)
        · exact ⟨_, (carryOut_bind_of_ok hmanifest _).trans (carryOut_bind_of_error hboard _)⟩
        · exact ⟨_, (carryOut_bind_of_ok hmanifest _).trans (carryOut_bind_of_ok hboard _)⟩

theorem validate_of_script {w w' : World} {path : String} {script : Script}
    (h : w.carryOut (Loading.script host.readFile path) = some (.ok script, w')) :
    script.validate = .ok () ∧ w' = w := by
  obtain ⟨hcheck, hworld⟩ := check_of_carryOut_file h
  exact ⟨mapError_eq_ok.mp hcheck, hworld⟩

/-- The manifest of a system that has been loaded can be used; so can the stock
one. -/
theorem validate_of_system {w w' : World} {path : Option String} {system : SystemDescription}
    (h : w.carryOut (Loading.system host.readFile path) = some (.ok system, w')) :
    system.manifest.validate = .ok () ∧ w' = w := by
  cases path with
  | none =>
      cases h
      exact ⟨rfl, rfl⟩
  | some path =>
      dsimp only [Loading.system] at h
      obtain ⟨manifest, w₁, hmanifest, hrest⟩ := carryOut_bind_eq_ok h
      obtain ⟨board, w₂, hboard, hboth⟩ := carryOut_bind_eq_ok hrest
      obtain ⟨hcheck, hworld₁⟩ := check_of_carryOut_file hmanifest
      obtain ⟨-, hworld₂⟩ := check_of_carryOut_file hboard
      rw [carryOut_pure] at hboth
      obtain ⟨hsystem, hworld⟩ := Prod.mk.inj (Option.some.inj hboth)
      cases hsystem
      exact ⟨mapError_eq_ok.mp hcheck, by rw [← hworld, hworld₂, hworld₁]⟩

/-! ## Writing documents -/

/-- The action ends, and the only trouble it can meet is that something cannot be
written. -/
def OnlyWrites (a : ExceptT Trouble Rehearsed α) : Prop :=
  ∀ w, ∃ answer w', carryOut w a = some (answer, w') ∧
    ∀ t, answer = .error t → ∃ output path why, t = .writing output path why

theorem OnlyWrites.pure (x : α) : OnlyWrites (Pure.pure x) := by
  intro w
  refine ⟨.ok x, w, rfl, ?_⟩
  intro t h
  cases h

theorem OnlyWrites.bind {a : ExceptT Trouble Rehearsed α} {f : α → ExceptT Trouble Rehearsed β}
    (ha : OnlyWrites a) (hf : ∀ x, OnlyWrites (f x)) : OnlyWrites (a >>= f) := by
  intro w
  obtain ⟨answer, w₁, hrun, honly⟩ := ha w
  cases answer with
  | ok x =>
      rw [carryOut_bind_of_ok hrun]
      exact hf x w₁
  | error t =>
      refine ⟨.error t, w₁, carryOut_bind_of_error hrun f, ?_⟩
      intro t' heq
      cases heq
      exact honly t rfl

/-- A change of the files either succeeds or says why it cannot be made. -/
theorem changeFiles_ends (f : FileTree → Except FileFault FileTree) (w : World) :
    ∃ answer w', w.carryOut (liftM (changeFiles f)) = some (.ok answer, w') := by
  rw [carryOut_lift]
  unfold changeFiles
  rw [StateT.run_bind, StateT.run_get, pure_bind]
  dsimp only
  cases f w.files with
  | ok files => exact ⟨_, _, rfl⟩
  | error why => exact ⟨_, _, rfl⟩

/-- The program gives up if there is a cause. -/
theorem onlyWrites_attempt {a : ExceptT Trouble Rehearsed (Except FileFault Unit)}
    (ha : ∀ w, ∃ answer w', carryOut w a = some (.ok answer, w')) (output : Output) (path : String)
    {f : Except FileFault Unit → ExceptT Trouble Rehearsed α}
    (hok : OnlyWrites (f (.ok ())))
    (herror : ∀ why, f (.error why) = throw (.writing output path why)) : OnlyWrites (a >>= f) := by
  intro w
  obtain ⟨answer, w', hrun⟩ := ha w
  rw [carryOut_bind_of_ok hrun]
  cases answer with
  | ok u => exact hok w'
  | error why =>
      refine ⟨.error (.writing output path why), w', by rw [herror, carryOut_throw], ?_⟩
      intro t heq
      cases heq
      exact ⟨output, path, why, rfl⟩

theorem onlyWrites_write (output : Output) (path text : String) :
    OnlyWrites (Program.write host output path text) := by
  unfold Program.write
  refine onlyWrites_attempt ?_ output path (.pure ()) ?_
  · intro w
    exact changeFiles_ends (fun t => t.writeFile path (Text.Utf8.encode text)) w
  · intro why
    rfl

/-- Writing the documents of a report can only fail to write them. -/
theorem onlyWrites_conclude (report : TestReport) (dir : Option String) :
    OnlyWrites (Program.conclude host report dir) := by
  cases dir with
  | none => exact .pure _
  | some dir =>
      have hdocuments := (onlyWrites_write .artifact (FilePath.join dir Program.resultName)
        report.json.pretty).bind fun _ => onlyWrites_write .artifact
          (FilePath.join dir Program.suiteName) (TestSuite.ofReport report).markup
      have hartifacts : OnlyWrites (Program.writeArtifacts host report dir) := by
        unfold Program.writeArtifacts
        refine onlyWrites_attempt ?_ .directory dir hdocuments ?_
        · intro w
          exact changeFiles_ends (fun t => t.createDirectories dir) w
        · intro why
          rfl
      exact hartifacts.bind fun _ => .pure _

/-! ## Actions that do not print -/

/-- The action neither prints nor looks at what has been printed. -/
def Silent (a : ExceptT Trouble Rehearsed α) : Prop :=
  ∀ w printed, carryOut { w with printed := printed } a =
    (carryOut w a).map fun r => (r.1, { r.2 with printed := printed })

theorem Silent.pure (x : α) : Silent (Pure.pure x) := fun _ _ => rfl

theorem silent_throw (t : Trouble) : Silent (throw t : ExceptT Trouble Rehearsed α) :=
  fun _ _ => rfl

theorem Silent.bind {a : ExceptT Trouble Rehearsed α} {f : α → ExceptT Trouble Rehearsed β}
    (ha : Silent a) (hf : ∀ x, Silent (f x)) : Silent (a >>= f) := by
  intro w printed
  rw [carryOut_bind, carryOut_bind, ha w printed]
  rcases w.carryOut a with _ | ⟨⟨t⟩ | ⟨x⟩, w'⟩
  · rfl
  · rfl
  · exact hf x w' printed

theorem silent_changeFiles (f : FileTree → Except FileFault FileTree) :
    Silent (liftM (changeFiles f)) := by
  intro w printed
  rw [carryOut_lift, carryOut_lift]
  unfold changeFiles
  rw [StateT.run_bind, StateT.run_bind, StateT.run_get, StateT.run_get, pure_bind, pure_bind]
  dsimp only
  cases f w.files with
  | ok files => rfl
  | error why => rfl

theorem silent_write (output : Output) (path text : String) :
    Silent (Program.write host output path text) := by
  unfold Program.write
  refine (silent_changeFiles fun t => t.writeFile path (Text.Utf8.encode text)).bind fun answer => ?_
  cases answer with
  | ok u => exact .pure ()
  | error why => exact silent_throw _

/-- Writing the documents of a report prints nothing. -/
theorem silent_conclude (report : TestReport) (dir : Option String) :
    Silent (Program.conclude host report dir) := by
  cases dir with
  | none => exact .pure _
  | some dir =>
      have hartifacts : Silent (Program.writeArtifacts host report dir) := by
        unfold Program.writeArtifacts
        refine (silent_changeFiles fun t => t.createDirectories dir).bind fun answer => ?_
        cases answer with
        | ok u => exact (silent_write _ _ _).bind fun _ => silent_write _ _ _
        | error why => exact silent_throw _
      exact hartifacts.bind fun _ => .pure _

end World

end PolledTerminal
