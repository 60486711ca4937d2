import CodeOutline.Command.Outcome

/-!
# What commands read

A file is text if its bytes are, and a text that is not named as a snapshot is an outline. What a
command does with an outline depends on the text alone.

## Main results

* `Command.readText_of_decode?`, `Command.status_of_readText_error`: a file as text, or none
* `Command.readForest_of_readText`: the forest of an outline
* `Command.runCheck_of_readText`, `Command.answer_runTree_of_readText`: a check of an outline, and
  what shows it
-/

namespace CodeOutline.Command

variable {settings : Settings} {workspace : Workspace} {path text : String} {bytes : List UInt8}

theorem readText_of_decode? (hread : workspace.read path = .ok bytes)
    (hdecoded : Utf8.decode? bytes = some text) : readText workspace path = .ok text := by
  rw [readText, Workspace.readText, hread]
  simp [bind, Except.bind, pure, Except.pure, hdecoded]

/-- A file that cannot be read stops a command with a status of two. -/
theorem status_of_readText_error {error : CommandError}
    (h : readText workspace path = .error error) : error.status = 2 := by
  unfold readText at h
  split at h
  · cases h
  · cases h
    rfl

/-- What is not named as a snapshot is read as an outline. -/
theorem readForest_of_readText (htext : readText workspace path = .ok text)
    (hsuffix : Path.hasSuffix "json" path = false) :
    readForest settings workspace path =
      .ok ((Outline.ofText settings.indentWidth text).forest,
        (Outline.ofText settings.indentWidth text).diagnostics.map
          fun d => path ++ ": " ++ d.display) := by
  rw [readForest, htext]
  simp [hsuffix, bind, Except.bind, pure, Except.pure]

theorem runCheck_of_readText (htext : readText workspace path = .ok text) :
    runCheck settings workspace path =
      let outline := Outline.ofText settings.indentWidth text
      ⟨if outline.hasErrors then 1 else 0, checkAnswer settings.format outline, ""⟩ := by
  rw [runCheck, readOutline, htext]
  rfl

theorem answer_runTree_of_readText (htext : readText workspace path = .ok text) :
    (runTree settings workspace path).answer =
      treeAnswer settings (Outline.ofText settings.indentWidth text).forest := by
  rw [runTree, readOutline, htext]
  rfl

end CodeOutline.Command
