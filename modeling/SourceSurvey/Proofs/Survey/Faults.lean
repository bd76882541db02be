import SourceSurvey.Proofs.Survey.Calls

/-!
# Faults found at the start

What a survey refuses before it looks at any entry, in a fixed order: a file type in no known language,
an unknown encoding, patterns that do not compile, a root that cannot be looked at, a root that is no
directory. The first three are faults of the settings and do not depend on the tree; of the tree, the
last two look at nothing but the root.
-/

namespace SourceSurvey

variable {σ : Type}

namespace Walk

/-! ## Failures under way -/

/-- The failures of a walk that has found no fault at the start. -/
def IsUnderWay : SurveyError → Prop
  | .io _ _ => True
  | .walk _ => True
  | .parseFailed _ => True
  | _ => False

theorem isUnderWay_of_move {plan : Plan} {tree : Node} {frames : List Frame} {entry : Entry}
    {e : SurveyError} (h : move plan tree frames entry = .error e) : IsUnderWay e := by
  unfold move at h
  cases hseen : seen plan tree frames entry with
  | error e' =>
    rw [hseen] at h
    cases h
    unfold seen at hseen
    split at hseen
    · cases hresolve : resolve tree frames entry with
      | error failure =>
        rw [hresolve] at hseen
        cases hseen
        trivial
      | ok entry' =>
        rw [hresolve] at hseen
        cases hseen
    · cases hseen
  | ok entry' =>
    rw [hseen] at h
    change moveFor plan tree entry' = .error e at h
    unfold moveFor at h
    split_ifs at h
    cases hread : tree.readAt entry'.path with
    | error failure =>
      rw [hread] at h
      cases h
      trivial
    | ok bytes =>
      rw [hread] at h
      cases h

/-- A walk under way fails of itself, or as its callback does. -/
theorem isUnderWay_of_go {onFile : FoundFile → Run σ Unit}
    (honFile : ∀ file world e, ((onFile file).on world).1 = .error e → IsUnderWay e) (plan : Plan)
    {steps : Nat} {frames : List Frame} {count : Nat} {world : World σ} {e : SurveyError}
    (h : ((go plan onFile steps frames count).on world).1 = .error e) : IsUnderWay e := by
  induction steps generalizing frames count world with
  | zero =>
    cases frames with
    | nil => cases h
    | cons frame frames => cases h
  | succ steps ih =>
    match frames with
    | [] => cases h
    | ⟨path, .error e'⟩ :: frames =>
      cases h
      trivial
    | ⟨path, .ok []⟩ :: frames =>
      rw [go_done] at h
      exact ih h
    | ⟨path, .ok (entry :: pending)⟩ :: frames =>
      rw [go_entry] at h
      rcases hmove : move plan world.tree (⟨path, .ok pending⟩ :: frames) entry with
        e' | events | _ | ⟨events, file⟩ <;> rw [hmove] at h
      · cases h
        exact isUnderWay_of_move hmove
      · exact ih h
      · exact ih h
      · have hfailure := honFile file (world.logged events)
        rcases hrun : (onFile file).on (world.logged events) with ⟨e' | _, after⟩
        · rw [hrun] at hfailure
          simp only [hrun] at h
          cases h
          exact hfailure _ rfl
        · simp only [hrun] at h
          exact ih h

end Walk

/-! ## Faults -/

/-- The first fault of the settings of a survey. -/
inductive SettingsFault (settings : WalkSettings) (root : Path) : SurveyError → Prop where
  | fileType {before after : List String} {t : String}
      (htypes : settings.fileTypes = before ++ t :: after)
      (hbefore : ∀ known ∈ before, (Language.ofExtension? known).isSome)
      (hunknown : Language.ofExtension? t = none) : SettingsFault settings root (.unsupportedFileType t)
  | encoding (htypes : ∀ t ∈ settings.fileTypes, (Language.ofExtension? t).isSome)
      (hlabel : Encoding.ofLabel? settings.encoding = none) :
      SettingsFault settings root (.unknownEncoding settings.encoding)
  | exclusion (htypes : ∀ t ∈ settings.fileTypes, (Language.ofExtension? t).isSome)
      (hlabel : ∃ encoding, Encoding.ofLabel? settings.encoding = some encoding)
      {e : Exclusion.Error}
      (hpatterns : Exclusions.compile root settings.excluded = .error e) :
      SettingsFault settings root (.invalidExclusion e)

/-- Settings without a fault. -/
structure Faultless (settings : WalkSettings) (root : Path) : Prop where
  types : ∀ t ∈ settings.fileTypes, (Language.ofExtension? t).isSome
  label : ∃ encoding, Encoding.ofLabel? settings.encoding = some encoding
  patterns : ∃ exclusions, Exclusions.compile root settings.excluded = .ok exclusions

/-- The fault of a root, where the settings have none. -/
inductive RootFault (settings : WalkSettings) (root : Path) (tree : Node) : SurveyError → Prop where
  | unknown (hsettings : Faultless settings root) {e : IoError}
      (hkind : tree.kindAt root = .error e) : RootFault settings root tree (.io root e)
  | noDirectory (hsettings : Faultless settings root) {kind : Node.Kind}
      (hkind : tree.kindAt root = .ok kind) (hne : kind ≠ .directory) :
      RootFault settings root tree (.notADirectory root)

namespace Survey

theorem unsupported?_eq_some_iff {s : Survey σ} {t : String} :
    s.unsupported? = some t ↔ ∃ before after, s.settings.fileTypes = before ++ t :: after ∧
      (∀ known ∈ before, (Language.ofExtension? known).isSome) ∧ Language.ofExtension? t = none := by
  simp only [unsupported?, List.find?_eq_some_iff_append, Option.isNone_iff_eq_none]
  constructor
  · rintro ⟨hunknown, before, after, htypes, hbefore⟩
    exact ⟨before, after, htypes, by simpa [Option.isSome_iff_ne_none] using hbefore, hunknown⟩
  · rintro ⟨before, after, htypes, hbefore, hunknown⟩
    exact ⟨hunknown, before, after, htypes, by simpa [Option.isSome_iff_ne_none] using hbefore⟩

theorem unsupported?_eq_none_iff {s : Survey σ} :
    s.unsupported? = none ↔ ∀ t ∈ s.settings.fileTypes, (Language.ofExtension? t).isSome := by
  simp [unsupported?, Option.isSome_iff_ne_none]

/-- What a survey finds out before it looks at the first entry. -/
def prepare (s : Survey σ) (root : Path) (tree : Node) : Except SurveyError Walk.Plan :=
  match s.unsupported? with
  | some t => .error (.unsupportedFileType t)
  | none => Walk.prepare s.settings root tree

/-- A survey goes on where neither its settings nor its root has a fault, and else fails with the
first. -/
theorem prepare_eq_error_iff {s : Survey σ} {root : Path} {tree : Node} {e : SurveyError} :
    s.prepare root tree = .error e ↔
      SettingsFault s.settings root e ∨ RootFault s.settings root tree e := by
  constructor
  · intro h
    unfold prepare at h
    cases hsupported : s.unsupported? with
    | some t =>
      simp only [hsupported] at h
      cases h
      obtain ⟨before, after, htypes, hbefore, hunknown⟩ := unsupported?_eq_some_iff.1 hsupported
      exact Or.inl (.fileType htypes hbefore hunknown)
    | none =>
      have htypes := unsupported?_eq_none_iff.1 hsupported
      simp only [hsupported, Walk.prepare] at h
      cases hlabel : Encoding.ofLabel? s.settings.encoding with
      | none =>
        simp only [hlabel] at h
        cases h
        exact Or.inl (.encoding htypes hlabel)
      | some encoding =>
        cases hpatterns : Exclusions.compile root s.settings.excluded with
        | error fault =>
          simp only [hlabel, hpatterns] at h
          cases h
          exact Or.inl (.exclusion htypes ⟨encoding, hlabel⟩ hpatterns)
        | ok exclusions =>
          have hsettings : Faultless s.settings root :=
            ⟨htypes, ⟨encoding, hlabel⟩, ⟨exclusions, hpatterns⟩⟩
          right
          rcases hkind : tree.kindAt root with fault | kind
          · simp only [hlabel, hpatterns, hkind] at h
            cases h
            exact .unknown hsettings hkind
          · simp only [hlabel, hpatterns, hkind] at h
            cases kind with
            | directory => cases h
            | file | link | special =>
              cases h
              exact .noDirectory hsettings hkind (by decide)
  · unfold prepare
    rintro ((⟨htypes, hbefore, hunknown⟩ | ⟨htypes, hlabel⟩ | ⟨htypes, hlabel, hpatterns⟩) |
      (⟨⟨htypes, ⟨_, hlabel⟩, ⟨_, hpatterns⟩⟩, hkind⟩ |
        ⟨⟨htypes, ⟨_, hlabel⟩, ⟨_, hpatterns⟩⟩, hkind, hne⟩))
    · rw [unsupported?_eq_some_iff.2 ⟨_, _, htypes, hbefore, hunknown⟩]
    · rw [unsupported?_eq_none_iff.2 htypes]
      simp only [Walk.prepare, hlabel]
    · obtain ⟨encoding, hlabel⟩ := hlabel
      rw [unsupported?_eq_none_iff.2 htypes]
      simp only [Walk.prepare, hlabel, hpatterns]
    · rw [unsupported?_eq_none_iff.2 htypes]
      simp only [Walk.prepare, hlabel, hpatterns, hkind]
    · rw [unsupported?_eq_none_iff.2 htypes]
      simp only [Walk.prepare, hlabel, hpatterns, hkind]

/-- The world that a survey leaves if it fails at the start. -/
def refused (s : Survey σ) (root : Path) (world : World (Progress σ)) : World (Progress σ) :=
  if s.unsupported?.isSome then world else s.announced root world

theorem analyze_on_of_fault {s : Survey σ} {root : Path} (world : World (Progress σ))
    {e : SurveyError} (h : s.prepare root world.tree = .error e) (steps : Nat) :
    (s.analyze steps root).on world = (.error e, s.refused root world) := by
  cases hsupported : s.unsupported? with
  | some t =>
    simp only [prepare, hsupported] at h
    cases h
    simp [analyze, refused, hsupported]
  | none =>
    simp only [prepare, hsupported] at h
    have htree : (s.announced root world).tree = world.tree := rfl
    rw [analyze_on_of_supported hsupported, walk_on, htree, h, refused, hsupported]
    rfl

/-- The analysis of a file fails with nothing but that it has no tree. -/
theorem isUnderWay_of_analyzeFound {s : Survey σ} {f : FoundFile} {world : World (Progress σ)}
    {e : SurveyError} (h : ((s.analyzeFound f).on world).1 = .error e) : Walk.IsUnderWay e := by
  rw [(s.analyzeFound_on f world).1, FoundFile.outcome_eq_error_iff, FoundFile.failure?,
    Option.bind_eq_some_iff] at h
  obtain ⟨source, -, hfailure⟩ := h
  split_ifs at hfailure
  cases hfailure
  trivial

/-- A survey without a fault at the start fails only under way. -/
theorem isUnderWay_of_analyze {s : Survey σ} {root : Path} {world : World (Progress σ)}
    {plan : Walk.Plan} (hprepare : s.prepare root world.tree = .ok plan) {steps : Nat}
    {e : SurveyError} (h : ((s.analyze steps root).on world).1 = .error e) : Walk.IsUnderWay e := by
  cases hsupported : s.unsupported? with
  | some t =>
    simp only [prepare, hsupported] at hprepare
    cases hprepare
  | none =>
    simp only [prepare, hsupported] at hprepare
    have htree : (s.announced root world).tree = world.tree := rfl
    rw [analyze_on_of_supported hsupported, walk_on, htree, hprepare] at h
    apply Walk.isUnderWay_of_go (fun file world e ↦ isUnderWay_of_analyzeFound) plan
    rcases hgo : (Walk.go plan s.analyzeFound steps [Walk.openDirectory world.tree root] 0).on
      (s.announced root world) with ⟨e' | _ | n, after⟩ <;> simp only [hgo] at h
    · cases h
      rfl
    · cases h
    · cases h

/-- A survey fails with `e` before anything happens: nothing is shown to a handler, the tree and what
the caller keeps stay as they are, and of the tree nothing but the root is looked at. -/
structure Refuses (s : Survey σ) (steps : Nat) (root : Path) (world : World (Progress σ))
    (e : SurveyError) : Prop where
  result : ((s.analyze steps root).on world).1 = .error e
  no_calls : s.callsMade steps root world = []
  tree : ((s.analyze steps root).on world).2.tree = world.tree
  kept : ((s.analyze steps root).on world).2.kept.kept = world.kept.kept
  unread : ∀ tree, tree.kindAt root = world.tree.kindAt root →
    (s.analyze steps root).on { world with tree := tree } =
      (.error e, { ((s.analyze steps root).on world).2 with tree := tree })

theorem refuses_of_fault {s : Survey σ} {root : Path} {world : World (Progress σ)}
    {e : SurveyError} (h : s.prepare root world.tree = .error e) (steps : Nat) :
    s.Refuses steps root world e := by
  have hanalyze := analyze_on_of_fault world h steps
  have hrefused : (s.refused root world).tree = world.tree ∧
      (s.refused root world).kept.kept = world.kept.kept := by
    unfold refused
    split <;> exact ⟨rfl, rfl⟩
  constructor
  · rw [hanalyze]
  · -- with handlers that write their calls down, the settings are the same
    let unheard : World (Progress (σ × List Call)) :=
      ⟨world.tree, world.log, ⟨(world.kept.kept, []), world.kept.summary, world.kept.nextId⟩⟩
    have hrecorded : s.recorded.prepare root unheard.tree = .error e := h
    have hrun := analyze_on_of_fault unheard hrecorded steps
    change ((s.recorded.analyze steps root).on unheard).2.kept.kept.2 = []
    rw [hrun]
    unfold refused
    split <;> rfl
  · rw [hanalyze]
    exact hrefused.1
  · rw [hanalyze]
    exact hrefused.2
  · intro tree htree
    have hsame : s.prepare root tree = .error e := by
      rw [← h]
      simp only [prepare, Walk.prepare, htree]
    rw [hanalyze, analyze_on_of_fault { world with tree := tree } hsame]
    unfold refused
    split <;> rfl

/-- A survey refuses the first fault of its settings, whatever the tree, and else the fault of its
root; where there is none, it fails only with what goes wrong on the way through the tree, or with a
file that has no syntax tree. -/
theorem refuses_first_fault (s : Survey σ) (steps : Nat) (root : Path)
    (world : World (Progress σ)) :
    (∀ e, SettingsFault s.settings root e →
        ∀ tree, s.Refuses steps root { world with tree := tree } e) ∧
      (∀ e, RootFault s.settings root world.tree e → s.Refuses steps root world e) ∧
      ((∀ e, ¬SettingsFault s.settings root e) → (∀ e, ¬RootFault s.settings root world.tree e) →
        ∀ e, ((s.analyze steps root).on world).1 = .error e →
          (∃ path failure, e = .io path failure) ∨ (∃ failure, e = .walk failure) ∨
            ∃ path, e = .parseFailed path) := by
  refine ⟨?_, ?_, ?_⟩
  · intro e hfault tree
    apply refuses_of_fault
    exact prepare_eq_error_iff.2 (Or.inl hfault)
  · intro e hfault
    apply refuses_of_fault
    exact prepare_eq_error_iff.2 (Or.inr hfault)
  · intro hsettings hroot e he
    cases hprepare : s.prepare root world.tree with
    | error fault =>
      rcases prepare_eq_error_iff.1 hprepare with hfault | hfault
      · exact absurd hfault (hsettings fault)
      · exact absurd hfault (hroot fault)
    | ok plan =>
      have hunderWay := isUnderWay_of_analyze hprepare he
      cases e with
      | io path failure => exact Or.inl ⟨path, failure, rfl⟩
      | walk failure => exact Or.inr (Or.inl ⟨failure, rfl⟩)
      | parseFailed path => exact Or.inr (Or.inr ⟨path, rfl⟩)
      | _ => exact absurd hunderWay id

/-- A survey without handlers. -/
def silentSurvey (settings : WalkSettings) : Survey Unit := ⟨settings, false, none, none, none⟩

/-- Nothing on the disk. -/
def nowhere : World (Progress Unit) := ⟨.empty, #[], ⟨(), .zero, 1⟩⟩

/-- With everything wrong at once, and with less and less of it. -/
theorem refuses_first_fault_several :
    (silentSurvey ⟨["json", "vue", "ini"], "klingon", ["["], false⟩).Refuses 10 (Path.ofString "r")
        nowhere (.unsupportedFileType "vue") ∧
      (silentSurvey ⟨["json"], "klingon", ["["], false⟩).Refuses 10 (Path.ofString "r")
        nowhere (.unknownEncoding "klingon") ∧
      (silentSurvey ⟨["json"], "utf-8", ["["], false⟩).Refuses 10 (Path.ofString "r")
        nowhere
        (.invalidExclusion ⟨"[", some "[", "unclosed character class; missing ']'"⟩) ∧
      (silentSurvey ⟨["json"], "utf-8", [], false⟩).Refuses 10 (Path.ofString "r")
        nowhere (.io (Path.ofString "r") (.system 2)) := by
  have hjson : Language.ofExtension? "json" = some .json := by cbv
  have hvue : Language.ofExtension? "vue" = none := by cbv
  have hklingon : Encoding.ofLabel? "klingon" = none := by cbv
  have hutf8 : Encoding.ofLabel? "utf-8" = some .utf8 := by cbv
  have hbracket : Exclusions.compile (Path.ofString "r") ["["] =
      .error ⟨"[", some "[", "unclosed character class; missing ']'"⟩ := by rfl
  have hmissing : Node.empty.kindAt (Path.ofString "r") = .error (.system 2) := by cbv
  have htypes : ∀ t ∈ ["json"], (Language.ofExtension? t).isSome := by simp [hjson]
  have hexclusion : SettingsFault ⟨["json"], "utf-8", ["["], false⟩ (Path.ofString "r")
      (.invalidExclusion ⟨"[", some "[", "unclosed character class; missing ']'"⟩) := by
    apply SettingsFault.exclusion
    · exact htypes
    · exact ⟨_, hutf8⟩
    · exact hbracket
  have hsettings : Faultless ⟨["json"], "utf-8", [], false⟩ (Path.ofString "r") :=
    ⟨htypes, ⟨_, hutf8⟩, ⟨_, rfl⟩⟩
  refine ⟨?_, ?_, ?_, ?_⟩
  · apply (refuses_first_fault _ 10 _ nowhere).1 _ ?_ .empty
    exact .fileType (rfl : _ = ["json"] ++ "vue" :: ["ini"]) htypes hvue
  · apply (refuses_first_fault _ 10 _ nowhere).1 _ ?_ .empty
    exact .encoding htypes hklingon
  · apply (refuses_first_fault _ 10 _ nowhere).1 _ ?_ .empty
    exact hexclusion
  · apply (refuses_first_fault _ _ _ _).2.1
    exact .unknown hsettings hmissing

end Survey

end SourceSurvey
