import PolledTerminal.Proofs.FileTree
import PolledTerminal.Proofs.Json
import PolledTerminal.Proofs.Program.Rehearsed
set_option autoImplicit false

/-!
# Concluding a test

A test that is concluded with documents has left two files in its directory, one with the
result and one with the suite, and every other file as it was.  The result tells what the
run has left behind.
-/

namespace PolledTerminal

open PolledTerminal.Text

/-- What a document tells of a run. -/
structure Json.TellsOf (document : Json) (o : Outcome) : Prop where
  stopReason : document.member? "stop_reason" = some (.str o.stopReason.key)
  steps : document.member? "steps" = some (.nat o.steps)
  cycles : document.member? "cycles" = some (.nat o.cycles)
  transcript : document.member? "display" = some (.str o.transcriptText)
  screen : document.member? "screen" = some (.str o.screenText)
  failedCheck : document.member? "failed_check" = some (.opt .str o.failedCheck)

/-- The result document of a report tells of its run, whatever the script asserts. -/
theorem TestReport.tellsOf_json (r : TestReport) : r.json.TellsOf r.outcome where
  stopReason := rfl
  steps := rfl
  cycles := rfl
  transcript := rfl
  screen := rfl
  failedCheck := rfl

namespace Program

/-- Two documents are in a directory, and every other file has the contents that it had. -/
structure Written (dir : String) (document : Json) (markup : String) (files files' : FileTree) :
    Prop where
  result : files'.contents (FilePath.join dir "result.json") = .ok (Utf8.encode document.pretty)
  suite : files'.contents (FilePath.join dir "junit.xml") = .ok (Utf8.encode markup)
  others : ∀ path bytes, files.contents path = .ok bytes → files'.contents path = .ok bytes ∨
    files'.locate path = files'.locate (FilePath.join dir "result.json") ∨
    files'.locate path = files'.locate (FilePath.join dir "junit.xml")

/-- The second file does not take the place of the first: they lie under different names. -/
theorem written_of_writeFile {dir markup : String} {document : Json}
    {files made between files' : FileTree} (hmade : files.createDirectories dir = .ok made)
    (hresult : made.writeFile (FilePath.join dir resultName) (Utf8.encode document.pretty) =
      .ok between)
    (hsuite : between.writeFile (FilePath.join dir suiteName) (Utf8.encode markup) = .ok files') :
    Written dir document markup files files' := by
  obtain ⟨names, hlocate, hcontents, hkept⟩ := FileTree.contents_of_writeFile hresult
  obtain ⟨names', hlocate', hcontents', hkept'⟩ := FileTree.contents_of_writeFile hsuite
  have hlast : names.getLast? = some "result.json" := FileTree.getLast?_of_locate_join
    ⟨by decide, by decide, by decide, by decide⟩ hlocate
  have hlast' : names'.getLast? = some "junit.xml" := FileTree.getLast?_of_locate_join
    ⟨by decide, by decide, by decide, by decide⟩ hlocate'
  have hne : names ≠ names' := by
    rintro rfl
    rw [hlast] at hlast'
    exact absurd hlast' (by decide)
  have hstill := hkept'.locate hlocate
  refine ⟨?_, hcontents', fun path bytes hbefore => ?_⟩
  · rcases hkept'.contents hcontents with hsame | ⟨other, hother, hmoved⟩
    · exact hsame
    · rw [List.mem_singleton.mp hother] at hmoved
      exact absurd (Except.ok.inj (hstill.symm.trans hmoved)) hne
  · have hall := (FileTree.keepsBut_createDirectories hmade).trans (hkept.trans hkept')
    refine (hall.contents hbefore).imp_right ?_
    rintro ⟨other, hother, hmoved⟩
    rcases List.mem_cons.mp hother with rfl | hother
    · exact .inl (hmoved.trans hstill.symm)
    · rw [List.mem_singleton.mp hother] at hmoved
      exact .inr (hmoved.trans hlocate'.symm)

theorem changeFiles_eq_ok {f : FileTree → Except FileFault FileTree} {w w' : World}
    (h : w.carryOut (liftM (World.changeFiles f)) = some (.ok (.ok ()), w')) :
    f w.files = .ok w'.files := by
  rw [World.carryOut_lift] at h
  unfold World.changeFiles at h
  rw [StateT.run_bind, StateT.run_get, pure_bind] at h
  dsimp only at h
  cases hfiles : f w.files with
  | ok files =>
      rw [hfiles] at h
      cases h
      rfl
  | error why =>
      rw [hfiles] at h
      cases h

/-- What gives up if there is a cause has ended well only without one. -/
theorem attempt_eq_ok {α : Type} {a : ExceptT Trouble Rehearsed (Except FileFault Unit)}
    {f : Except FileFault Unit → ExceptT Trouble Rehearsed α} {w w' : World} {x : α}
    (h : w.carryOut (a >>= f) = some (.ok x, w'))
    (herror : ∀ why, ∃ t, f (.error why) = throw t) :
    ∃ w₁, w.carryOut a = some (.ok (.ok ()), w₁) ∧ w₁.carryOut (f (.ok ())) = some (.ok x, w') := by
  obtain ⟨answer, w₁, ha, hf⟩ := World.carryOut_bind_eq_ok h
  cases answer with
  | ok u => exact ⟨w₁, ha, hf⟩
  | error why =>
      obtain ⟨t, ht⟩ := herror why
      rw [ht, World.carryOut_throw] at hf
      cases hf

theorem files_of_write {output : Output} {path text : String} {w w' : World} {u : Unit}
    (h : w.carryOut (write World.host output path text) = some (.ok u, w')) :
    w.files.writeFile path (Utf8.encode text) = .ok w'.files := by
  unfold write at h
  obtain ⟨w₁, hchange, hrest⟩ := attempt_eq_ok h fun why => ⟨_, rfl⟩
  rw [World.carryOut_pure] at hrest
  cases hrest
  exact changeFiles_eq_ok (f := fun t => t.writeFile path (Utf8.encode text)) hchange

/-- A test that is concluded ends with its exit code, and its documents have been
written if they are wanted. -/
theorem conclude_eq_ok {r : TestReport} {outputDir : Option String} {w w' : World} {code : Nat}
    (h : w.carryOut (conclude World.host r outputDir) = some (.ok code, w')) :
    code = r.exitCode ∧ ∀ dir ∈ outputDir,
      Written dir r.json (TestSuite.ofReport r).markup w.files w'.files := by
  cases outputDir with
  | none =>
      cases h
      exact ⟨rfl, fun _ hdir => absurd hdir (Option.not_mem_none _)⟩
  | some dir =>
      have hbind : w.carryOut (writeArtifacts World.host r dir >>= fun _ => pure r.exitCode)
          = some (.ok code, w') := h
      obtain ⟨_, w₁, hwrite, hcode⟩ := World.carryOut_bind_eq_ok hbind
      cases hcode
      refine ⟨rfl, ?_⟩
      rintro _ ⟨⟩
      unfold writeArtifacts at hwrite
      obtain ⟨w₂, hmade, hdocuments⟩ := attempt_eq_ok hwrite fun why => ⟨_, rfl⟩
      obtain ⟨_, w₃, hresult, hsuite⟩ := World.carryOut_bind_eq_ok hdocuments
      exact written_of_writeFile
        (changeFiles_eq_ok (f := fun t => t.createDirectories dir) hmade)
        (files_of_write hresult) (files_of_write hsuite)

end Program

end PolledTerminal
