/-
  DocSite.Proofs.Command.Trace

  What commands leave behind. Everything that can fail for another reason than the output
  itself comes before the first thing that is written or printed, so a command either fails
  with the world as it was, or is stopped by the output, or leaves its output and missing
  directories above it.
-/
import DocSite.Command.Run
import DocSite.Proofs.Config.Load
import DocSite.Proofs.Files.Tree

namespace DocSite

variable {ε ε' α β : Type} {w w' w₁ : World}

/-! ## Failures -/

/-- What a failure may leave behind: nothing, files or directories, or a part of what was to
    be printed. -/
inductive Remains where
  | nothing
  | files
  | text
  deriving DecidableEq

/-- What is left of the world after a failure. -/
def World.AfterFailure (w w' : World) : Remains → Prop
  | .nothing => w' = w
  | .files => w.OnlyFiles w'
  | .text => ∃ printed, w' = { w with stdout := w.stdout ++ printed }

/-- What a program leaves of the world: after a failure no more than what remains of it, and
    otherwise what is said of its result. -/
def LeavesClean (remains : ε → Remains) (w w' : World) (done : α → Prop) : Except ε α → Prop
  | .ok a => done a
  | .error e => w.AfterFailure w' (remains e)

namespace LeavesClean

variable {remains : ε → Remains} {done : α → Prop}

theorem of_eq {e : ε} (h : w' = w) : LeavesClean remains w w' done (.error e) := by
  subst h
  rw [LeavesClean]
  cases remains e with
  | nothing => exact rfl
  | files => exact .refl w'
  | text => exact ⟨"", by rw [String.append_empty]⟩

theorem of_onlyFiles {e : ε} (h : remains e = .files) (hfiles : w.OnlyFiles w') :
    LeavesClean remains w w' done (.error e) := by
  rw [LeavesClean, h]
  exact hfiles

theorem mono {more : α → Prop} {r : Except ε α} (h : LeavesClean remains w w' done r)
    (hmore : ∀ a, done a → more a) : LeavesClean remains w w' more r := by
  cases r with
  | ok a => exact hmore a h
  | error e => exact h

/-- What only reads may come first. -/
theorem of_bind {x : ExceptT ε (StateM World) β} {f : β → ExceptT ε (StateM World) α}
    {r : Except ε α} (hx : ReadsOnly x) (h : Ends (x >>= f) w r w')
    (hf : ∀ b, Ends x w (.ok b) w → Ends (f b) w r w' → LeavesClean remains w w' done r) :
    LeavesClean remains w w' done r := by
  rcases ends_bind_iff.mp h with ⟨b, w₁, hb, hfb⟩ | ⟨e, he, rfl⟩
  · obtain rfl := hx hb
    exact hf b hb hfb
  · exact .of_eq (hx he)

/-- A result may be put in place of another one at the end. -/
theorem of_bind_pure {x : ExceptT ε (StateM World) β} {f : β → α} {r : Except ε α}
    (h : Ends (x >>= fun b => pure (f b)) w₁ r w')
    (hx : ∀ r, Ends x w₁ r w' → LeavesClean remains w w' (fun b => done (f b)) r) :
    LeavesClean remains w w' done r := by
  rcases ends_bind_iff.mp h with ⟨b, w₂, hb, hpure⟩ | ⟨e, he, rfl⟩
  · obtain ⟨rfl, rfl⟩ := ends_pure_iff.mp hpure
    exact hx _ hb
  · exact hx _ he

/-- Errors may be put into others after which the same remains. -/
theorem of_adapt {x : ExceptT ε (StateM World) α} {f : ε → ε'} {outer : ε' → Remains}
    {r : Except ε' α} (h : Ends (x.adapt f) w₁ r w') (hf : ∀ e, outer (f e) = remains e)
    (hx : ∀ r, Ends x w₁ r w' → LeavesClean remains w w' done r) :
    LeavesClean outer w w' done r := by
  obtain ⟨r, hr, rfl⟩ := ends_adapt_iff.mp h
  have hclean := hx r hr
  cases r with
  | ok a => exact hclean
  | error e =>
    show w.AfterFailure w' (outer (f e))
    rw [hf]
    exact hclean

end LeavesClean

/-- What remains of a manifest that failed: directories, and what stands in place of its
    file, if it failed for these. -/
def ManifestError.remains : ManifestError → Remains
  | .noDirectory _ | .unwritable _ => .files
  | .summary _ | .unreadable _ => .nothing

/-- What remains of a command that failed: something only if it failed for its output,
    which is a directory that cannot be created, a file that cannot be written or a text that
    cannot be printed. -/
def Command.CommandError.remains : CommandError → Remains
  | .noDirectory _ | .unwritable _ | .template _ (.unwritable _) => .files
  | .unprintable => .text
  | .manifest _ e => e.remains
  | _ => .nothing

/-! ## Outputs -/

/-- What follows on creating the directory that a path leads into has the directories above
    the path, as far as they could be created. -/
theorem of_ends_createDirectories {path parent : String} {r : Except ε α}
    {f : Bool → ExceptT ε (StateM World) α} (hparent : parentOf? path = some parent)
    (h : Ends (liftM (FileAccess.createDirectories (m := StateM World) parent) >>= f) w r w') :
    ∃ done w₁, w.GrowsBy w₁ (Path.Ancestor path.toList) ∧ Ends (f done) w₁ r w' := by
  obtain ⟨chars, hchars, rfl⟩ := Option.map_eq_some_iff.mp hparent
  have hgrows := World.growsBy_createAll w (String.ofList chars)
  rw [ends_lift_bind_iff (run_createDirectories (String.ofList chars) w)] at h
  refine ⟨_, _, ⟨hgrows.onlyFiles, hgrows.directories.mono fun other hother => ?_⟩, h⟩
  rw [String.toList_ofList] at hother
  rcases hother with rfl | hother
  · exact .parent hchars
  · exact .further hchars hother

section Outputs

variable {path text : String}

/-- The end of a program that writes its output: the directories above it are there. -/
theorem leavesClean_writeText {remains : ε → Remains} {e : ε} {r : Except ε Unit}
    (he : remains e = .files) (hgrows : w.GrowsBy w₁ (Path.Ancestor path.toList))
    (h : Ends (liftM (FileAccess.writeText (m := StateM World) path text) >>= fun done =>
      if !done then throw e else pure ()) w₁ r w') :
    LeavesClean remains w w' (fun _ => w.Wrote w' path text) r := by
  obtain ⟨rfl, rfl⟩ := (ends_insist_iff (run_writeText path text w₁)).mp h
  cases hdone : (w₁.writeFile path text).1 with
  | false => exact .of_onlyFiles he (hgrows.onlyFiles.withFiles _)
  | true => exact World.wrote_of_growsBy hgrows hdone

theorem leavesClean_writeManifest {r : Except ManifestError Unit}
    (h : Ends (writeManifest path text) w r w') :
    LeavesClean ManifestError.remains w w' (fun _ => w.Wrote w' path text) r := by
  unfold writeManifest at h
  cases hparent : parentOf? path with
  | none =>
    rw [hparent] at h
    exact leavesClean_writeText rfl (.refl w _) h
  | some parent =>
    rw [hparent] at h
    obtain ⟨done, w₁, hgrows, h⟩ := of_ends_createDirectories hparent h
    cases done with
    | false =>
      obtain ⟨rfl, rfl⟩ := ends_throw_bind_iff.mp h
      exact .of_onlyFiles rfl hgrows.onlyFiles
    | true => exact leavesClean_writeText rfl hgrows h

end Outputs

/-- The manifest of the summary is the only file that is written. -/
theorem leavesClean_generateManifest {sourceDir outputDir : String} {paths : ManifestPaths}
    {r : Except ManifestError String}
    (h : Ends (generateManifest sourceDir outputDir paths) w r w') :
    LeavesClean ManifestError.remains w w' (fun _ => ∃ text items,
      w.text? (pathIn sourceDir paths.input) = some text ∧
      manifestOf (.ofMarkdown text) = .ok items ∧
      w.Wrote w' (pathIn outputDir paths.output) (manifestJson items)) r := by
  rw [generateManifest, ends_lift_bind_iff (run_readText? _ w)] at h
  cases htext : w.text? (pathIn sourceDir paths.input) with
  | none =>
    rw [htext] at h
    obtain ⟨rfl, rfl⟩ := ends_throw_iff.mp h
    exact .of_eq rfl
  | some text =>
    rw [htext] at h
    refine .of_bind (.liftExcept _) h fun items hitems h => ?_
    refine .of_bind_pure h fun r hr => ?_
    refine (leavesClean_writeManifest hr).mono fun _ hwrote => ⟨text, items, rfl, ?_, hwrote⟩
    have hok := (ends_liftExcept_iff.mp hitems).1
    cases hmanifest : manifestOf (.ofMarkdown text) with
    | ok items₁ =>
      rw [hmanifest] at hok
      exact congrArg Except.ok (Except.ok.inj hok).symm
    | error e =>
      rw [hmanifest] at hok
      nomatch hok

namespace Command

section Outputs

variable {path : String}

/-- Nothing but directories above the path is changed. Where it does not fail they are
    there. Whether to skip them is found by reading. -/
theorem of_ends_createParent {skip : String → StateM World Bool}
    (hskip : ∀ path w, ∃ skipped, ((skip path).run w).run = (skipped, w))
    {r : Except CommandError Unit} (h : Ends (createParent skip path) w r w') :
    w.GrowsBy w' (Path.Ancestor path.toList) ∧
      ((∃ parent, r = .error (.noDirectory parent)) ∨ r = .ok ()) := by
  unfold createParent at h
  -- Nothing is created for a path without a parent, or if the check lets it be skipped.
  cases hparent : parentOf? path with
  | none =>
    rw [hparent] at h
    obtain ⟨rfl, rfl⟩ := ends_pure_iff.mp h
    exact ⟨.refl _ _, .inr rfl⟩
  | some parent =>
    rw [hparent] at h
    obtain ⟨skipped, hskipped⟩ := hskip parent w
    dsimp only at h
    rw [ends_lift_bind_iff hskipped] at h
    split at h
    · obtain ⟨done, w₁, hgrows, h⟩ := of_ends_createDirectories hparent h
      cases done with
      | false =>
        obtain ⟨rfl, rfl⟩ := ends_throw_iff.mp h
        exact ⟨hgrows, .inl ⟨parent, rfl⟩⟩
      | true =>
        obtain ⟨rfl, rfl⟩ := ends_pure_iff.mp h
        exact ⟨hgrows, .inr rfl⟩
    · obtain ⟨rfl, rfl⟩ := ends_pure_iff.mp h
      exact ⟨.refl _ _, .inr rfl⟩

/-- What follows after the directories above a path. -/
theorem leavesClean_of_createParent {skip : String → StateM World Bool}
    (hskip : ∀ path w, ∃ skipped, ((skip path).run w).run = (skipped, w))
    {f : Unit → ExceptT CommandError (StateM World) α} {r : Except CommandError α}
    {done : α → Prop} (h : Ends (createParent skip path >>= f) w r w')
    (hf : ∀ {w₁}, w.GrowsBy w₁ (Path.Ancestor path.toList) → Ends (f ()) w₁ r w' →
      LeavesClean CommandError.remains w w' done r) :
    LeavesClean CommandError.remains w w' done r := by
  -- Directories may be left behind by a failure, but then it is one for the output.
  rcases ends_bind_iff.mp h with ⟨_, w₁, hx, hrest⟩ | ⟨e, hx, rfl⟩
  · exact hf (of_ends_createParent hskip hx).1 hrest
  · obtain ⟨hgrows, ⟨_, herror⟩ | hok⟩ := of_ends_createParent hskip hx
    · obtain rfl := Except.error.inj herror
      exact .of_onlyFiles rfl hgrows.onlyFiles
    · nomatch hok

theorem leavesClean_writePage {html : String} {r : Except CommandError Unit}
    (h : Ends (writePage path html) w r w') :
    LeavesClean CommandError.remains w w' (fun _ => w.Wrote w' path html) r :=
  leavesClean_of_createParent (fun _ _ => ⟨false, rfl⟩) h fun hgrows hwrite =>
    leavesClean_writeText rfl hgrows hwrite

theorem leavesClean_printPage {html : String} {r : Except CommandError Unit}
    (h : Ends (printPage html) w r w') :
    LeavesClean CommandError.remains w w'
      (fun _ => w' = { w with stdout := w.stdout ++ html }) r := by
  obtain ⟨rfl, rfl⟩ := (ends_insist_iff (run_print html w)).mp h
  cases hwhole : (w.print html).1 with
  | false => exact ⟨w.printable html, rfl⟩
  | true =>
    have hhtml : w.printable html = html := beq_iff_eq.mp hwhole
    show (w.print html).2 = _
    rw [World.print, hhtml]

theorem templateOf_name (format : ConfigFormat) :
    Config.templateOf format.name = .ok format.template := by
  have hname : ConfigFormat.ofAnyCase? format.name.toList = some format := by
    cases format <;> decide +kernel
  rw [Config.templateOf, hname]

theorem leavesClean_initConfig {format : ConfigFormat} {force : Bool}
    {r : Except CommandError Unit} (h : Ends (initConfig path format force) w r w') :
    LeavesClean CommandError.remains w w'
      (fun _ => w.Wrote w' path format.template) r := by
  rw [initConfig, ends_lift_bind_iff (run_pathExists path w)] at h
  dsimp only at h
  split at h
  · obtain ⟨rfl, rfl⟩ := ends_throw_bind_iff.mp h
    exact .of_eq rfl
  · refine leavesClean_of_createParent (fun path w => ⟨_, run_pathExists path w⟩) h ?_
    intro w₁ hgrows htemplate
    refine .of_adapt htemplate (fun e => rfl) fun r hr => ?_
    have htext : Ends (liftM (Config.templateOf format.name)) w₁ (.ok format.template) w₁ :=
      ends_liftExcept_iff.mpr ⟨(templateOf_name format).symm, rfl⟩
    rw [Config.writeTemplate, ends_bind_of_ok htext] at hr
    exact leavesClean_writeText rfl hgrows hr

/-- A configuration file is not replaced unless that is forced. -/
theorem ends_initConfig_present {format : ConfigFormat} (hpresent : w.find? path ≠ none) :
    Ends (initConfig path format false) w (.error (.present path)) w := by
  have hsome : ((w.find? path).isSome && !false) = true := by
    rw [Bool.not_false, Bool.and_true]
    exact Option.isSome_iff_ne_none.mpr hpresent
  rw [initConfig, ends_lift_bind_iff (run_pathExists path w)]
  dsimp only
  rw [if_pos hsome]
  exact ends_throw_bind_iff.mpr ⟨rfl, rfl⟩

/-- A file holds the manifest of the summary that the configuration names. -/
def WroteManifest (config : Config) (w w' : World) : Prop :=
  ∃ text items, w.text? (pathIn config.sourceDir config.tocInput) = some text ∧
    manifestOf (.ofMarkdown text) = .ok items ∧
    w.Wrote w' (pathIn config.outputDir config.tocOutput) (manifestJson items)

theorem leavesClean_runToc {config : Config} {r : Except CommandError Unit}
    (h : Ends (runToc config) w r w') :
    LeavesClean CommandError.remains w w' (fun _ => WroteManifest config w w') r := by
  unfold runToc at h
  refine .of_bind_pure h fun r hr => ?_
  refine .of_adapt hr (fun e => rfl) fun r hr => ?_
  -- Without the goal in sight, which would have the paths unfolded.
  have hmanifest := leavesClean_generateManifest hr
  exact hmanifest

end Outputs

/-! ## Inputs -/

theorem run_firstPresent?_snd (paths : List String) (w : World) :
    ((Config.firstPresent? (m := StateM World) paths).run w).run.2 = w := by
  induction paths with
  | nil => rfl
  | cons path rest ih =>
    have hrun : ((Config.firstPresent? (m := StateM World) (path :: rest)).run w).run =
        Id.run (StateT.run (if (w.find? path).isSome then pure (some path)
          else Config.firstPresent? (m := StateM World) rest) w) := rfl
    rw [hrun]
    split
    · rfl
    · exact ih

/-- Finding and loading a configuration leaves the world as it is. -/
theorem readsOnly_loadConfig (invocation : Invocation) :
    ReadsOnly (loadConfig (m := StateM World) invocation) := by
  unfold loadConfig
  split
  · exact .bind (.lift (run_firstPresent?_snd _)) fun _ => .adapt _ (Config.readsOnly_load _ _)
  · exact .bind (.pure _) fun _ => .adapt _ (Config.readsOnly_load _ _)

/-- Rendering a page leaves the world as it is. -/
theorem readsOnly_renderPage (library : SyntaxLibrary) (config : Config) (file : String) :
    ReadsOnly (renderPage (m := StateM World) library config file) := by
  refine .bind (.lift fun w => congrArg Prod.snd (run_readText? file w)) fun text? => ?_
  split
  · split
    · exact .pure _
    · exact .throw _
  · exact .throw _

/-! ## Commands -/

/-- What a command that succeeds leaves of the world. It writes its output and creates
    missing directories above that, or prints it. -/
def Invocation.Leaves (library : SyntaxLibrary) (invocation : Invocation) (w w' : World) : Prop :=
  match invocation.action with
  | .toc => ∃ config, Ends (loadConfig invocation) w (.ok config) w ∧ WroteManifest config w w'
  | .render file output => ∃ config html, Ends (loadConfig invocation) w (.ok config) w ∧
      Ends (renderPage library config file) w (.ok html) w ∧
      match output with
      | some path => w.Wrote w' path html
      | none => w' = { w with stdout := w.stdout ++ html }
  | .init output format _ => w.Wrote w' output format.template

theorem leavesClean_run {library : SyntaxLibrary} {invocation : Invocation}
    {r : Except CommandError Unit} (h : Ends (invocation.run library) w r w') :
    LeavesClean CommandError.remains w w' (fun _ => invocation.Leaves library w w') r := by
  unfold Invocation.run at h
  unfold Invocation.Leaves
  cases haction : invocation.action with
  | init output format force =>
    rw [haction] at h
    exact leavesClean_initConfig h
  | toc =>
    rw [haction] at h
    refine .of_bind (readsOnly_loadConfig invocation) h fun config hconfig h => ?_
    exact (leavesClean_runToc h).mono fun _ hwrote => ⟨config, hconfig, hwrote⟩
  | render file output =>
    rw [haction] at h
    refine .of_bind (readsOnly_loadConfig invocation) h fun config hconfig h => ?_
    refine .of_bind (readsOnly_renderPage library config file) h fun html hhtml h => ?_
    cases output with
    | none =>
      exact (leavesClean_printPage h).mono fun _ hprinted =>
        ⟨config, html, hconfig, hhtml, hprinted⟩
    | some path =>
      exact (leavesClean_writePage h).mono fun _ hwrote => ⟨config, html, hconfig, hhtml, hwrote⟩

theorem ends_run_init_present {library : SyntaxLibrary} {invocation : Invocation}
    {output : String} {format : ConfigFormat}
    (haction : invocation.action = .init output format false) (hpresent : w.find? output ≠ none) :
    Ends (invocation.run library) w (.error (.present output)) w := by
  unfold Invocation.run
  rw [haction]
  exact ends_initConfig_present hpresent

theorem executeIn_eq {library : SyntaxLibrary} {arguments : List String} {invocation : Invocation}
    (hread : Invocation.read? arguments = some invocation) {r : Except CommandError Unit}
    (h : Ends (invocation.run library) w r w') :
    executeIn library arguments w = (exitCode r, w'.printError (report r)) := by
  unfold executeIn execute
  rw [hread]
  dsimp only
  rw [StateT.run_bind]
  have hrun : ((invocation.run (m := StateM World) library).run.run w) = (r, w') := h
  rw [hrun]
  rfl

/-- A command that fails for another reason than its output leaves the world as it was, the
    files and what is on standard output. One that fails for its output leaves no more than
    files and directories, or a part of what it prints. One that succeeds writes its output and
    only creates missing directories above it besides, or it prints its output. A configuration
    file is not replaced unless that is forced, nor is anything else changed then. After a
    command the program says on standard error what became of it. -/
theorem executeIn_leavesClean (library : SyntaxLibrary) {arguments : List String}
    {invocation : Invocation} (hread : Invocation.read? arguments = some invocation) (w : World) :
    ∃ r w', Ends (invocation.run library) w r w' ∧
      executeIn library arguments w = (exitCode r, w'.printError (report r)) ∧
      (∀ e, r = .error e → w.AfterFailure w' e.remains) ∧
      (r = .ok () → invocation.Leaves library w w') ∧
      ∀ output format, invocation.action = .init output format false →
        w.find? output ≠ none → r = .error (.present output) ∧ w' = w := by
  obtain ⟨r, w', h⟩ := exists_ends (invocation.run library) w
  have hclean := leavesClean_run h
  refine ⟨r, w', h, executeIn_eq hread h, ?_, ?_, ?_⟩
  · rintro e rfl
    exact hclean
  · rintro rfl
    exact hclean
  · intro output format haction hpresent
    exact Prod.mk.inj (h.symm.trans (ends_run_init_present haction hpresent))

theorem eq_ok_of_exitCode {r : Except CommandError Unit} (h : exitCode r = 0) : r = .ok () := by
  unfold exitCode at h
  split at h
  · rfl
  all_goals nomatch h

/-- A working directory with a summary and a page that cannot be rendered. Above it is a page
    that can be. -/
def atWork : World where
  files := ⟨[(["work".toList], .directory), (["page.md".toList], .file (some "Hello\n")),
    (["work".toList, "_SUMMARY.md".toList], .file (some "- [Start](/start.md)\n")),
    (["work".toList, "bad.md".toList], .file (some "```rust\x7bx\x7d\n```\n"))]⟩
  directory := ["work".toList]

/-- Outputs go above the working directory and to other places below the root, where the
    directories are created. A page that cannot be rendered leaves nothing of these, and what
    is there is not replaced by a configuration file. -/
theorem executeIn_atWork :
    (∃ w' html, executeIn .plainText ["render", "../page.md", "-o", "../site/new/page.html"] atWork
        = (0, w'.printError "") ∧ atWork.Wrote w' "../site/new/page.html" html ∧
      w'.text? "/site/new/page.html" = some "<p>Hello</p>\n") ∧
    (∃ w' config, executeIn .plainText ["--config", "output_dir=/srv/docs", "toc"] atWork
        = (0, w'.printError "") ∧ WroteManifest config atWork w' ∧
      (w'.text? "/srv/docs/HelpTOC.json").isSome = true) ∧
    (∃ message, executeIn .plainText ["render", "bad.md", "-o", "/site/new/bad.html"] atWork
      = (1, atWork.printError message)) ∧
    ∃ message, executeIn .plainText ["init", "-o", "/page.md"] atWork
      = (1, atWork.printError message) := by
  refine ⟨?_, ?_, ?_, ?_⟩
  · have hread : Invocation.read? ["render", "../page.md", "-o", "../site/new/page.html"] =
        some ⟨false, [], [], .render "../page.md" (some "../site/new/page.html")⟩ := by
      decide +kernel
    obtain ⟨r, w', -, hrun, -, hok, -⟩ := executeIn_leavesClean .plainText hread atWork
    have hcode : (executeIn .plainText
        ["render", "../page.md", "-o", "../site/new/page.html"] atWork).1 = 0 := by decide +kernel
    have htext : (executeIn .plainText
        ["render", "../page.md", "-o", "../site/new/page.html"] atWork).2.text?
          "/site/new/page.html" = some "<p>Hello</p>\n" := by decide +kernel
    rw [hrun] at hcode htext
    obtain rfl := eq_ok_of_exitCode hcode
    obtain ⟨config, html, -, -, hwrote⟩ := hok rfl
    exact ⟨w', html, hrun, hwrote, htext⟩
  · have hread : Invocation.read? ["--config", "output_dir=/srv/docs", "toc"] =
        some ⟨false, [], ["output_dir=/srv/docs"], .toc⟩ := by decide +kernel
    obtain ⟨r, w', -, hrun, -, hok, -⟩ := executeIn_leavesClean .plainText hread atWork
    have hcode : (executeIn .plainText
        ["--config", "output_dir=/srv/docs", "toc"] atWork).1 = 0 := by decide +kernel
    have htext : ((executeIn .plainText ["--config", "output_dir=/srv/docs", "toc"] atWork).2.text?
        "/srv/docs/HelpTOC.json").isSome = true := by decide +kernel
    rw [hrun] at hcode htext
    obtain rfl := eq_ok_of_exitCode hcode
    obtain ⟨config, -, hwrote⟩ := hok rfl
    exact ⟨w', config, hrun, hwrote, htext⟩
  · have hread : Invocation.read? ["render", "bad.md", "-o", "/site/new/bad.html"] =
        some ⟨false, [], [], .render "bad.md" (some "/site/new/bad.html")⟩ := by decide +kernel
    obtain ⟨r, w', hends, hrun, herror, -, -⟩ := executeIn_leavesClean .plainText hread atWork
    have hfails : (match ((Invocation.run (m := StateM World) .plainText
        ⟨false, [], [], .render "bad.md" (some "/site/new/bad.html")⟩).run.run atWork).run.1 with
        | .ok _ => none
        | .error e => some e.remains) = some .nothing := by decide +kernel
    rw [hends] at hfails
    have hcode : (executeIn .plainText
        ["render", "bad.md", "-o", "/site/new/bad.html"] atWork).1 = 1 := by decide +kernel
    rw [hrun] at hcode
    cases r with
    | ok _ => nomatch hfails
    | error e =>
      have hremains : e.remains = .nothing := Option.some.inj hfails
      have hafter := herror e rfl
      rw [hremains] at hafter
      obtain rfl := hafter
      exact ⟨_, hrun.trans (congrArg (·, _) hcode)⟩
  · have hread : Invocation.read? ["init", "-o", "/page.md"] =
        some ⟨false, [], [], .init "/page.md" .toml false⟩ := by decide +kernel
    obtain ⟨r, w', -, hrun, -, -, hpresent⟩ := executeIn_leavesClean .plainText hread atWork
    obtain ⟨rfl, rfl⟩ := hpresent _ _ rfl (by decide +kernel)
    exact ⟨_, hrun⟩

end Command

end DocSite
