import ClusterConfig.Proofs.Asking
import ClusterConfig.Proofs.Documents
import ClusterConfig.Proofs.Readers
import ClusterConfig.Session

/-!
# What earlier requests change in later answers

A session keeps one reader for all its requests, and nothing else of what it did before has a part
in its answers: settings and files are those of the moment. So an answer is that of a session with a
fresh reader wherever the reader is transparent, and otherwise some file tells the two apart.

Main definitions:

- `Session.freshAnswers`: the answers of a session that takes a fresh reader for every request.
- `Reader.Becomes`: a reader before and after a request.
- `Session.HasPlainFiles`: sessions whose files leave a reader as it is.
- `Reader.snapshot?`: the snapshot that a reader finds in a text.

Main results:

- Theorem `step_of_readsLike`: readers that read alike give the same answers.
- Theorem `becomes_step`: a request reads at most the text of one file.
- Theorem `isTransparent_of_snapshot?`: three texts tell a reader that is not transparent from a
  fresh one.
- Theorem `isTransparent_step`: a request keeps the reader transparent if all files are plain.
- Theorem `run_start_eq_freshAnswers`: a session whose files are plain answers like one with fresh
  readers.
- Theorem `step_run_eq_fresh_iff`: after any requests, the next answer is that of a fresh reader,
  whatever is asked, just where the reader is transparent.
-/

namespace ClusterConfig

/-! ## Readers that read alike -/

/-- Readers that make the same of the text of a kubeconfig file find the same in it. -/
theorem Kubeconfig.parse_congr_reader {r r' : Yaml.Reader} {files : Files} {path : Path}
    (h : ∀ text, readText files path = .ok text → (r.load text).1 = (r'.load text).1)
    (given : String) : (parse files r given path).1 = (parse files r' given path).1 := by
  unfold parse load
  cases hread : readText files path with
  | error fault => rfl
  | ok text =>
    dsimp only
    rw [h text hread]
    cases document path (r'.load text).1 <;> rfl

/-- A kubeconfig file with a text that a reader cannot read gives no snapshot. -/
theorem Kubeconfig.parse_of_error {files : Files} {r : Yaml.Reader} {given : String} {path : Path}
    {text : String} {fault : Yaml.Fault} (hread : readText files path = .ok text)
    (h : (r.load text).1 = .error fault) :
    (parse files r given path).1.value.toOption = none := by
  unfold parse load
  rw [hread]
  dsimp only
  rw [h]
  cases hdocument : document path (.error fault) with
  | error loadFault => rfl
  | ok doc => exact absurd hdocument (document_error_ne_ok path fault doc)

namespace Resolve

/-- Readers that read alike fill a draft alike. -/
theorem mergeKubeconfig_of_readsLike {r r' : Yaml.Reader} (h : r.ReadsLike r') (w : World)
    (d : Draft) : (mergeKubeconfig w r d).1 = (mergeKubeconfig w r' d).1 := by
  rw [mergeKubeconfig_eq, mergeKubeconfig_eq]
  cases hpath : kubeconfigPath w.settings w.home with
  | error failure => rw [look_of_error hpath, look_of_error hpath]
  | ok path =>
    cases hfile : w.files.isFile path with
    | false => rw [look_of_absent hpath hfile, look_of_absent hpath hfile]
    | true =>
      rw [look_of_file hpath hfile, look_of_file hpath hfile]
      dsimp only [Finding.adopt]
      rw [Kubeconfig.parse_congr_reader fun text _ => h text]

/-- Readers that read alike give the same notes and the same configuration. -/
theorem resolve_of_readsLike {r r' : Yaml.Reader} (h : r.ReadsLike r') (w : World)
    (explicit : List (String × Value)) :
    (resolve w r explicit).notes = (resolve w r' explicit).notes ∧
      (resolve w r explicit).outcome = (resolve w r' explicit).outcome := by
  unfold resolve
  cases accept explicit with
  | error failure => exact ⟨rfl, rfl⟩
  | ok d =>
    dsimp only [resolveSeeded]
    split
    · exact ⟨rfl, rfl⟩
    · split
      · rw [mergeKubeconfig_of_readsLike h]
        exact ⟨rfl, rfl⟩
      · exact ⟨rfl, rfl⟩

end Resolve

namespace Session

/-- The same answer to the same notes and outcome. -/
theorem answer_congr (s s' : Session) {r r' : Resolve.Resolution} (hnotes : r.notes = r'.notes)
    (houtcome : r.outcome = r'.outcome) : (s.answer r).1 = (s'.answer r').1 := by
  unfold answer
  rw [hnotes, houtcome]
  cases r'.outcome <;> rfl

/-- An answer leaves the reader alone. -/
theorem reader_answer (s : Session) (r : Resolve.Resolution) :
    (s.answer r).2.reader = s.reader := by
  unfold answer
  split <;> rfl

/-- Readers that read alike give the same answers. -/
theorem step_of_readsLike {r r' : Yaml.Reader} (h : r.ReadsLike r') (s : Session)
    (request : Request) :
    ({ s with reader := r }.step request).1 = ({ s with reader := r' }.step request).1 := by
  cases request with
  | resolve explicit =>
    obtain ⟨hnotes, houtcome⟩ := Resolve.resolve_of_readsLike h s.world explicit
    exact answer_congr _ _ hnotes houtcome
  | build =>
    obtain ⟨hnotes, houtcome⟩ := Resolve.resolve_of_readsLike h s.world s.builder.values
    exact answer_congr _ _ hnotes houtcome
  | resolveAlone explicit => exact answer_congr _ _ rfl rfl
  | parse path =>
    dsimp only [step]
    rw [Kubeconfig.parse_congr_reader fun text _ => h text]
    cases (Kubeconfig.parse s.tree.toFiles r' path (.ofText path)).1.value <;> rfl
  | give name value =>
    dsimp only [step]
    cases s.builder.giveNamed name value <;> rfl
  | newBuilder => rfl
  | kubeconfigPath =>
    dsimp only [step]
    cases Resolve.kubeconfigPath s.settings s.home <;> rfl
  | setProperty name value => rfl
  | setVariable name value => rfl
  | write path content =>
    dsimp only [step]
    cases s.tree.write? (.ofText path) content <;> rfl
  | remove path =>
    dsimp only [step]
    cases s.tree.remove? (.ofText path) <;> rfl

end Session

/-! ## The reader after a request -/

/-- A reader over files becomes another one if that is itself, or itself after the text of a
file. -/
def Yaml.Reader.Becomes (files : Files) (r r' : Reader) : Prop :=
  r' = r ∨ ∃ path text, files.readMarkedText path = .ok text ∧ r' = (r.load text).2

/-- A look at a kubeconfig file reads at most the text of that. -/
theorem Kubeconfig.becomes_parse (files : Files) (r : Yaml.Reader) (given : String) (path : Path) :
    r.Becomes files (parse files r given path).2 := by
  unfold parse load readText
  cases htext : files.readMarkedText path with
  | error cause =>
    left
    cases cause <;> rfl
  | ok text =>
    right
    refine ⟨path, text, htext, ?_⟩
    dsimp only
    cases document path (r.load text).1 <;> rfl

/-- A resolution reads at most the text of one file. -/
theorem Resolve.becomes_mergeKubeconfig (w : World) (r : Yaml.Reader) (d : Draft) :
    r.Becomes w.files (mergeKubeconfig w r d).2 := by
  rw [mergeKubeconfig_eq]
  rcases look_cases w r with ⟨failure, hlook⟩ | ⟨path, hlook⟩ | ⟨path, hlook⟩
  · rw [hlook]
    exact .inl rfl
  · rw [hlook]
    exact .inl rfl
  · rw [hlook]
    exact Kubeconfig.becomes_parse w.files r path.toText path

/-- The reader after a resolution is that after the kubeconfig file, if it came to that. -/
theorem Resolve.becomes_resolve (w : World) (r : Yaml.Reader) (explicit : List (String × Value)) :
    r.Becomes w.files (resolve w r explicit).reader := by
  unfold resolve
  cases accept explicit with
  | error failure => exact .inl rfl
  | ok d =>
    dsimp only [resolveSeeded]
    split
    · exact .inl rfl
    · split
      · exact becomes_mergeKubeconfig w r _
      · exact .inl rfl

/-- A request reads at most the text of one file. -/
theorem Session.becomes_step (s : Session) (request : Request) :
    s.reader.Becomes s.tree.toFiles (s.step request).2.reader := by
  cases request with
  | resolve explicit =>
    dsimp only [step]
    rw [reader_answer]
    exact Resolve.becomes_resolve s.world s.reader explicit
  | build =>
    dsimp only [step]
    rw [reader_answer]
    exact Resolve.becomes_resolve s.world s.reader s.builder.values
  | resolveAlone explicit =>
    dsimp only [step]
    rw [reader_answer]
    exact .inl rfl
  | parse path =>
    have hstep : (s.step (.parse path)).2.reader =
        (Kubeconfig.parse s.tree.toFiles s.reader path (.ofText path)).2 := by
      dsimp only [step]
      split <;> rfl
    rw [hstep]
    exact Kubeconfig.becomes_parse s.tree.toFiles s.reader path (.ofText path)
  | give name value =>
    left
    dsimp only [step]
    split <;> rfl
  | newBuilder => exact .inl rfl
  | kubeconfigPath =>
    left
    dsimp only [step]
    split <;> rfl
  | setProperty name value => exact .inl rfl
  | setVariable name value => exact .inl rfl
  | write path content =>
    left
    dsimp only [step]
    split <;> rfl
  | remove path =>
    left
    dsimp only [step]
    split <;> rfl

/-! ## Texts that tell readers apart -/

/-- A tree with one file, which holds a text. -/
def treeHolding (text : String) : FileTree :=
  ⟨[(["f"], .file text.toUTF8)]⟩

namespace Yaml.Reader

/-- The snapshot that a reader finds in a text. -/
def snapshot? (r : Reader) (text : String) : Option Snapshot :=
  (Kubeconfig.parse (treeHolding text).toFiles r "f" (.ofText "f")).1.value.toOption

/-- Readers that make the same of a text find the same snapshot in it. -/
theorem snapshot?_congr {r r' : Reader} {text : String}
    (h : ∀ found, Kubeconfig.readText (treeHolding text).toFiles (.ofText "f") = .ok found →
      (r.load found).1 = (r'.load found).1) : r.snapshot? text = r'.snapshot? text := by
  rw [snapshot?, snapshot?, Kubeconfig.parse_congr_reader h]

/-- A reader finds the same in a text as without what is left of earlier documents, or nothing. -/
theorem snapshot?_cases (r : Reader) (text : String) :
    r.snapshot? text = r.cleared.snapshot? text ∨ r.snapshot? text = none := by
  cases hread : Kubeconfig.readText (treeHolding text).toFiles (.ofText "f") with
  | error fault => exact .inl (snapshot?_congr (by simp [hread]))
  | ok found =>
    rcases outcome_load_cases r found with hsame | ⟨fault, hfault⟩
    · exact .inl (snapshot?_congr (by simp [hread, hsame]))
    · exact .inr (Kubeconfig.parse_of_error hread hfault)

/-- A text that a reader cannot read has no snapshot. -/
theorem snapshot?_eq_none {r : Reader} {text : String}
    (hread : ((treeHolding text).toFiles.readMarkedText (.ofText "f")).toOption = some text)
    (h : ∃ fault, (r.load text).1 = .error fault) : r.snapshot? text = none := by
  obtain ⟨fault, hfault⟩ := h
  have htext : Kubeconfig.readText (treeHolding text).toFiles (.ofText "f") = .ok text := by
    unfold Kubeconfig.readText
    cases hmarked : (treeHolding text).toFiles.readMarkedText (.ofText "f") with
    | error fault =>
      rw [hmarked] at hread
      cases hread
    | ok found =>
      rw [hmarked] at hread
      exact congrArg Except.ok (Option.some.inj hread)
  exact Kubeconfig.parse_of_error htext hfault

/-- A list that holds itself and a word that is a truth value in the legacy version. -/
def probe : String := "current-context: &a [*a, y]"

/-- A document of a version. -/
def probeOf : Edition → String
  | .current => "a:"
  | .legacy => "%YAML 1.1\n---\na:"

/-- A fresh reader finds something in each of the texts, and of the readers with nothing left only a
fresh one finds in the first text what that finds. -/
theorem snapshot?_probes :
    fresh.snapshot? probe ≠ none ∧ (∀ e : Edition, fresh.snapshot? (probeOf e) ≠ none) ∧
      ∀ (e : Edition) (eager : Bool),
        (Reader.mk e [] eager).snapshot? probe = fresh.snapshot? probe →
          e = .current ∧ eager = false := by
  have hlegacy : ∀ eager, (Reader.mk .legacy [] eager).snapshot? probe ≠ fresh.snapshot? probe := by
    decide +kernel
  have heager : (Reader.mk .current [] true).snapshot? probe ≠ fresh.snapshot? probe := by
    decide +kernel
  refine ⟨by decide +kernel, ?_, ?_⟩
  · intro e
    cases e <;> decide +kernel
  · intro e eager h
    cases e with
    | legacy => exact absurd h (hlegacy eager)
    | current =>
      cases eager with
      | true => exact absurd h heager
      | false => exact ⟨rfl, rfl⟩

/-- The document of a version puts that version in force. -/
theorem exists_document_probeOf (e : Edition) :
    ∃ n b, (Builder.start .current (probeOf e)).document = .ok (some n, b) ∧ b.edition = e := by
  have hread : ((Builder.start .current (probeOf e)).document.toOption.bind fun read =>
      read.1.map fun _ => read.2.edition) = some e := by
    cases e <;> decide +kernel
  cases hdocument : (Builder.start .current (probeOf e)).document with
  | error halt =>
    rw [hdocument] at hread
    cases hread
  | ok read =>
    obtain ⟨found, b⟩ := read
    rw [hdocument] at hread
    cases found with
    | none => cases hread
    | some n => exact ⟨n, b, rfl, Option.some.inj hread⟩

/-- A reader that finds the same as a fresh one in three texts is transparent: one text shows the
version and whether collections are put off, and a document of each version shows what is left. -/
theorem isTransparent_of_snapshot? {r : Reader}
    (hprobe : r.snapshot? probe = fresh.snapshot? probe)
    (hprobeOf : ∀ e, r.snapshot? (probeOf e) = fresh.snapshot? (probeOf e)) : r.IsTransparent := by
  obtain ⟨hfresh, hfreshOf, honly⟩ := snapshot?_probes
  obtain ⟨hedition, heager⟩ : r.edition = .current ∧ r.eager = false := by
    rcases snapshot?_cases r probe with hsame | hnone
    · exact honly _ _ (hsame.symm.trans hprobe)
    · exact absurd (hprobe.symm.trans hnone) hfresh
  refine ⟨hedition, heager, ?_⟩
  intro e w hmem
  -- work that cannot finish would make the reading of a document of that version fail
  apply Classical.byContradiction
  intro hw
  obtain ⟨n, b, hdocument, hb⟩ := exists_document_probeOf e
  rw [← hedition] at hdocument
  rw [← hb] at hw
  have hallowed : (probeOf e).toList.all isAllowed = true := by
    cases e <;> decide
  have hread : ((treeHolding (probeOf e)).toFiles.readMarkedText (.ofText "f")).toOption =
      some (probeOf e) := by
    cases e <;> decide
  have hnone := snapshot?_eq_none hread (exists_error_load hallowed hdocument hmem hw)
  exact hfreshOf e ((hprobeOf e).symm.trans hnone)

end Yaml.Reader

/-! ## Sessions -/

namespace Session

/-- Sessions that give the same answers about a file have readers that find the same in it. -/
theorem snapshot?_of_step {s : Session} {r r' : Yaml.Reader} {text : String}
    (h : ({ s with reader := r, tree := treeHolding text }.step (.parse "f")).1 =
      ({ s with reader := r', tree := treeHolding text }.step (.parse "f")).1) :
    r.snapshot? text = r'.snapshot? text := by
  have hvalue := congrArg Noted.value h
  unfold Yaml.Reader.snapshot?
  dsimp only [step] at hvalue
  cases hr : (Kubeconfig.parse (treeHolding text).toFiles r "f" (.ofText "f")).1.value with
  | ok found =>
    rw [hr] at hvalue
    cases hr' : (Kubeconfig.parse (treeHolding text).toFiles r' "f" (.ofText "f")).1.value with
    | ok found' =>
      rw [hr'] at hvalue
      exact congrArg some (Reply.snapshot.inj hvalue)
    | error fault =>
      rw [hr'] at hvalue
      cases hvalue
  | error fault =>
    rw [hr] at hvalue
    cases hr' : (Kubeconfig.parse (treeHolding text).toFiles r' "f" (.ofText "f")).1.value with
    | ok found' =>
      rw [hr'] at hvalue
      cases hvalue
    | error fault' => rfl

/-- The next answer of a session is that of a fresh reader, whatever the settings and files are by
then and whatever is asked, just where the reader of the session is transparent. -/
theorem step_eq_fresh_iff (s : Session) :
    (∀ settings tree request,
      ({ s with settings, tree }.step request).1 =
        ({ s with settings, tree, reader := .fresh }.step request).1) ↔
      s.reader.IsTransparent := by
  constructor
  · intro h
    apply Yaml.Reader.isTransparent_of_snapshot?
    · exact snapshot?_of_step (h s.settings (treeHolding Yaml.Reader.probe) (.parse "f"))
    · intro e
      exact snapshot?_of_step (h s.settings (treeHolding (Yaml.Reader.probeOf e)) (.parse "f"))
  · intro h settings tree request
    exact step_of_readsLike h.readsLike_fresh { s with settings, tree } request

/-- The answers to several requests if every one of them gets a fresh reader. -/
def freshAnswers (s : Session) : List Request → List (Noted Reply)
  | [] => []
  | request :: requests =>
    ({ s with reader := .fresh }.step request).1 :: freshAnswers (s.step request).2 requests

/-- All texts that the files of a session hold are plain. -/
def HasPlainFiles (s : Session) : Prop :=
  ∀ path text, s.tree.toFiles.readMarkedText path = .ok text → Yaml.Reader.IsPlain text

/-- A request keeps the reader transparent if all files are plain. -/
theorem isTransparent_step {s : Session} (h : s.reader.IsTransparent) (hplain : s.HasPlainFiles)
    (request : Request) : (s.step request).2.reader.IsTransparent := by
  rcases becomes_step s request with hsame | ⟨path, text, htext, hread⟩
  · rw [hsame]
    exact h
  · rw [hread]
    exact h.of_load (hplain path text htext)

/-- A session with a transparent reader answers every one of several requests like one with a fresh
reader, if before each of them all files are plain. -/
theorem run_eq_freshAnswers {s : Session} {requests : List Request}
    (hreader : s.reader.IsTransparent)
    (hplain : ∀ before request after, requests = before ++ request :: after →
      (s.run before).2.HasPlainFiles) :
    (s.run requests).1 = s.freshAnswers requests := by
  induction requests generalizing s with
  | nil => rfl
  | cons request requests ih =>
    have hfirst : s.HasPlainFiles := hplain [] request requests rfl
    have hrest : ((s.step request).2.run requests).1 =
        (s.step request).2.freshAnswers requests := by
      apply ih (isTransparent_step hreader hfirst request)
      intro before next after hsplit
      apply hplain (request :: before) next after
      rw [hsplit]
      rfl
    have hanswer := (step_eq_fresh_iff s).mpr hreader s.settings s.tree request
    change (s.step request).1 :: ((s.step request).2.run requests).1 = _
    rw [hrest, freshAnswers]
    exact congrArg (· :: _) hanswer

/-- A session answers all requests like one with fresh readers, if before each of them all files are
plain. -/
theorem run_start_eq_freshAnswers (settings : Settings) (tree : FileTree) (home : Homes)
    (mount usualMount : Mount) {requests : List Request}
    (hplain : ∀ before request after, requests = before ++ request :: after →
      ((start settings tree home mount usualMount).run before).2.HasPlainFiles) :
    ((start settings tree home mount usualMount).run requests).1 =
      (start settings tree home mount usualMount).freshAnswers requests :=
  run_eq_freshAnswers Yaml.Reader.isTransparent_fresh hplain

/-- After any requests the next answer is that of a fresh reader, whatever the settings and files
are by then and whatever is asked, just where the reader is transparent. -/
theorem step_run_eq_fresh_iff (settings : Settings) (tree : FileTree) (home : Homes)
    (mount usualMount : Mount) (requests : List Request) :
    (∀ settings' tree' request,
      ({ ((start settings tree home mount usualMount).run requests).2 with
          settings := settings', tree := tree' }.step request).1 =
        ({ ((start settings tree home mount usualMount).run requests).2 with
          settings := settings', tree := tree', reader := .fresh }.step request).1) ↔
      ((start settings tree home mount usualMount).run requests).2.reader.IsTransparent :=
  step_eq_fresh_iff _

/-- The context that an answer names. -/
def contextOf (answer : Noted Reply) : Option String :=
  match answer.value with
  | .snapshot s => s.contextName
  | _ => none

/-- Answers do depend on what was read before: the version of one document decides what a word in
another one means. -/
theorem earlier_version_shows :
    ¬∀ (settings : Settings) (tree : FileTree) (home : Homes) (mount usualMount : Mount)
        (requests : List Request) (request : Request),
      (((start settings tree home mount usualMount).run requests).2.step request).1 =
        ({ ((start settings tree home mount usualMount).run requests).2 with
          reader := .fresh }.step request).1 := by
  intro h
  have hsame := h ⟨[], [], none⟩
    ⟨[(["a"], .file "%YAML 1.1\n---\na:".toUTF8), (["b"], .file "current-context: y".toUTF8)]⟩
    "home" .standard .standard [.parse "a"] (.parse "b")
  exact absurd (congrArg contextOf hsame) (by decide +kernel)

end Session

end ClusterConfig
