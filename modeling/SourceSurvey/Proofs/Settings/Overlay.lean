import SourceSurvey.Proofs.Json.Members
import SourceSurvey.Proofs.Json.RoundTrip

/-!
# Configurations as overlays

A configuration is read from an object as the default one, with each field replaced that the object
gives. The order of the members does not matter, nor do members that are no field; a field that is given
twice, or by a value of another kind, makes the object no configuration.
-/

namespace SourceSurvey.Config

open Json Json.Reader Json.Spelling

/-! ## Settings -/

/-- A field of a configuration, with a value for it. -/
inductive Setting where
  | encoding (s : String)
  | excluded (ss : List String)
  | fileTypes (ss : List String)
  | namedOnly (b : Bool)
  | followLinks (b : Bool)

namespace Setting

def name : Setting → String
  | encoding _ => "file_encoding"
  | excluded _ => "excluded_files"
  | fileTypes _ => "allowed_file_types"
  | namedOnly _ => "named_nodes_only"
  | followLinks _ => "follow_links"

/-- What an object says to give the setting. -/
def datum : Setting → Datum
  | encoding s => .string (some s)
  | excluded ss => .array (ss.map fun s ↦ .string (some s))
  | fileTypes ss => .array (ss.map fun s ↦ .string (some s))
  | namedOnly b => .bool b
  | followLinks b => .bool b

/-- The member of an object that gives the setting. -/
def member (s : Setting) : Option String × Datum := (some s.name, s.datum)

/-- The configuration in which the field has the value of the setting. -/
def replaceIn (c : Config) : Setting → Config
  | encoding s => { c with encoding := s }
  | excluded ss => { c with excluded := ss }
  | fileTypes ss => { c with fileTypes := ss }
  | namedOnly b => { c with namedOnly := b }
  | followLinks b => { c with followLinks := b }

end Setting

/-- The default configuration with the fields replaced that are set. -/
def overlay (settings : List Setting) : Config := settings.foldl Setting.replaceIn default

/-- The member is named as a field of a configuration is. -/
def isField (m : Option String × Datum) : Bool :=
  [some "file_encoding", some "excluded_files", some "allowed_file_types", some "named_nodes_only",
    some "follow_links"].contains m.1

/-- The members give the settings, each once, and no other fields; every name is a text. -/
structure Gives (members : List (Option String × Datum)) (settings : List Setting) : Prop where
  named : ∀ m ∈ members, m.1 ≠ none
  given : members.filter isField = settings.map Setting.member
  once : (settings.map Setting.name).Nodup

/-! ## The order of settings -/

theorem Setting.member_injective : Function.Injective Setting.member := by
  have htexts : Function.Injective (List.map fun s ↦ Datum.string (some s)) :=
    List.map_injective_iff.2 fun s s' h ↦ by simpa using h
  intro s s' h
  obtain ⟨hname, hdatum⟩ := Prod.mk.inj h
  cases s <;> cases s' <;>
    simp [Setting.name, Setting.datum, htexts.eq_iff] at hname hdatum ⊢ <;> exact hdatum

theorem replaceIn_comm {s s' : Setting} (h : s.name ≠ s'.name) (c : Config) :
    s'.replaceIn (s.replaceIn c) = s.replaceIn (s'.replaceIn c) := by
  cases s <;> cases s' <;> first | rfl | exact absurd rfl h

theorem overlay_perm {settings settings' : List Setting} (h : settings.Perm settings')
    (honce : (settings.map Setting.name).Nodup) : overlay settings = overlay settings' := by
  apply h.foldl_eq'
  intro s hs s' hs' c
  by_cases hname : s.name = s'.name
  · rw [List.inj_on_of_nodup_map honce hs hs' hname]
  · exact replaceIn_comm hname c

namespace Gives

variable {members members' : List (Option String × Datum)} {settings : List Setting}

theorem nodup (h : Gives members settings) : ((members.filter isField).map Prod.fst).Nodup := by
  have hnames : (settings.map Setting.member).map Prod.fst = (settings.map Setting.name).map some := by
    rw [List.map_map, List.map_map]
    rfl
  rw [h.given, hnames]
  exact h.once.map (Option.some_injective String)

theorem exists_member (h : Gives members settings) {m : Option String × Datum} (hm : m ∈ members)
    (hfield : isField m = true) : ∃ s : Setting, s.member = m := by
  have hgiven : m ∈ settings.map Setting.member := h.given ▸ List.mem_filter.2 ⟨hm, hfield⟩
  obtain ⟨s, -, hs⟩ := List.mem_map.1 hgiven
  exact ⟨s, hs⟩

/-- Members with the same fields, in any order and among any others, give the same configuration. -/
theorem exists_of_perm (h : Gives members settings) (hnamed : ∀ m ∈ members', m.1 ≠ none)
    (hperm : (members'.filter isField).Perm (members.filter isField)) :
    ∃ settings', Gives members' settings' ∧ overlay settings' = overlay settings := by
  rw [h.given] at hperm
  have hrange : members'.filter isField ∈ Set.range (List.map Setting.member) := by
    rw [Set.range_list_map]
    intro m hm
    obtain ⟨s, -, hs⟩ := List.mem_map.1 (hperm.mem_iff.1 hm)
    exact ⟨s, hs⟩
  obtain ⟨settings', hsettings⟩ := hrange
  rw [← hsettings, List.map_perm_map_iff Setting.member_injective] at hperm
  have honce : (settings'.map Setting.name).Nodup := (hperm.map Setting.name).nodup_iff.2 h.once
  exact ⟨settings', ⟨hnamed, hsettings.symm, honce⟩, overlay_perm hperm honce⟩

end Gives

/-! ## What the members give -/

/-- What the value of a member means to a field. -/
def means (field : Field) (d : Datum) : Option Value :=
  if field.name = "file_encoding" then d.string?.map .string
  else if field.name = "excluded_files" ∨ field.name = "allowed_file_types" then
    d.strings?.map fun ss ↦ .array (ss.map .string)
  else d.bool?.map .bool

theorem understands_means : ∀ field ∈ fields, Understands field.read (means field) := by
  intro field hfield
  simp only [fields, List.mem_cons, List.not_mem_nil, or_false] at hfield
  rcases hfield with rfl | rfl | rfl | rfl | rfl
  · exact understands_text.map Value.string
  · exact understands_texts.map _
  · exact understands_texts.map _
  · exact understands_flag.map Value.bool
  · exact understands_flag.map Value.bool

/-- What a field reads for the setting. -/
def Setting.value : Setting → Value
  | encoding s => .string s
  | excluded ss => .array (ss.map .string)
  | fileTypes ss => .array (ss.map .string)
  | namedOnly b => .bool b
  | followLinks b => .bool b

def Setting.entry (s : Setting) : String × Value := (s.name, s.value)

theorem means_datum {field : Field} {s : Setting} (h : field.name = s.name) :
    means field s.datum = some s.value := by
  have htexts (ss : List String) :
      (Datum.array (ss.map fun s ↦ .string (some s))).strings? = some ss :=
    Datum.strings?_eq_some_iff.2 rfl
  cases s with
  | encoding s => simp [means, h, Setting.name, Setting.datum, Setting.value, Datum.string?]
  | excluded ss => simp [means, h, Setting.name, Setting.datum, Setting.value, htexts]
  | fileTypes ss => simp [means, h, Setting.name, Setting.datum, Setting.value, htexts]
  | namedOnly b => simp [means, h, Setting.name, Setting.datum, Setting.value, Datum.bool?]
  | followLinks b => simp [means, h, Setting.name, Setting.datum, Setting.value, Datum.bool?]

/-- What means something to a field is the value of a setting. -/
theorem exists_setting {field : Field} (hfield : field ∈ fields) {d : Datum} {v : Value}
    (h : means field d = some v) :
    ∃ s : Setting, s.name = field.name ∧ s.datum = d ∧ s.value = v := by
  simp only [fields, List.mem_cons, List.not_mem_nil, or_false] at hfield
  rcases hfield with rfl | rfl | rfl | rfl | rfl <;> obtain ⟨x, hx, rfl⟩ := Option.map_eq_some_iff.1 h
  · exact ⟨.encoding x, rfl, (Datum.string?_eq_some_iff.1 hx).symm, rfl⟩
  · exact ⟨.excluded x, rfl, (Datum.strings?_eq_some_iff.1 hx).symm, rfl⟩
  · exact ⟨.fileTypes x, rfl, (Datum.strings?_eq_some_iff.1 hx).symm, rfl⟩
  · exact ⟨.namedOnly x, rfl, (Datum.bool?_eq_some_iff.1 hx).symm, rfl⟩
  · exact ⟨.followLinks x, rfl, (Datum.bool?_eq_some_iff.1 hx).symm, rfl⟩

theorem isField_member (s : Setting) : isField s.member = true := by
  cases s <;> rfl

theorem isField_eq_false_iff {name : String} {d : Datum} :
    isField (some name, d) = false ↔ fields.find? (fun f ↦ f.name == name) = none := by
  simp [isField, fields, @eq_comm _ name]

theorem collect_eq_some_iff {given given' : List (String × Value)} {m : Option String × Datum} :
    collect fields means given m = some given' ↔
      (m.1 ≠ none ∧ isField m = false ∧ given' = given) ∨
        ∃ s : Setting, m = s.member ∧ given.lookup s.name = none ∧ given' = given ++ [s.entry] := by
  obtain ⟨name, d⟩ := m
  cases name with
  | none => simp [collect, Setting.member]
  | some name =>
    cases hfind : fields.find? fun f ↦ f.name == name with
    | none =>
      have hfield := isField_eq_false_iff (d := d).2 hfind
      simp only [collect, Option.bind_some, hfind]
      constructor
      · intro h
        exact .inl ⟨Option.some_ne_none name, hfield, (Option.some.inj h).symm⟩
      · rintro (⟨-, -, rfl⟩ | ⟨s, hs, -⟩)
        · rfl
        · exact absurd (isField_member s) (by simp [← hs, hfield])
    | some field =>
      have hmem := List.mem_of_find?_eq_some hfind
      obtain rfl : field.name = name := by simpa using List.find?_some hfind
      have hfield : isField (some field.name, d) ≠ false := fun h ↦ by
        simp [isField_eq_false_iff.1 h] at hfind
      simp only [collect, Option.bind_some, hfind]
      constructor
      · intro h
        split at h
        · contradiction
        · rename_i hnone
          obtain ⟨v, hv, rfl⟩ := Option.map_eq_some_iff.1 h
          obtain ⟨s, hname, rfl, rfl⟩ := exists_setting hmem hv
          refine .inr ⟨s, ?_, ?_, ?_⟩
          · rw [Setting.member, hname]
          · rw [hname]
            exact Option.not_isSome_iff_eq_none.1 hnone
          · rw [Setting.entry, hname]
      · rintro (⟨-, hno, -⟩ | ⟨s, hs, hnone, rfl⟩)
        · exact absurd hno hfield
        · obtain ⟨hname, rfl⟩ := Prod.mk.inj hs
          have hname : field.name = s.name := Option.some.inj hname
          rw [hname, hnone, means_datum hname]
          rfl

theorem lookup_name_eq_none_iff {given : List (String × Value)} (hgiven : (given.map Prod.fst).Nodup)
    (s : Setting) :
    given.lookup s.name = none ↔ ((given ++ [s.entry]).map Prod.fst).Nodup := by
  rw [List.lookup_eq_none_iff, List.map_append, List.nodup_append]
  simp only [hgiven, List.map_cons, List.map_nil, List.nodup_singleton, true_and, List.mem_map,
    List.mem_singleton, Setting.entry, bne_iff_ne]
  constructor
  · rintro h _ ⟨p, hp, rfl⟩ _ rfl
    exact (h p hp).symm
  · intro h p hp
    exact (h p.1 ⟨p, hp, rfl⟩ s.name rfl).symm

/-- Members give something if all their names are texts and their fields are settings, each once. -/
theorem foldlM_collect_eq_some_iff {members : List (Option String × Datum)}
    {given given' : List (String × Value)} (hgiven : (given.map Prod.fst).Nodup) :
    members.foldlM (collect fields means) given = some given' ↔
      ∃ settings : List Setting, (∀ m ∈ members, m.1 ≠ none) ∧
        members.filter isField = settings.map Setting.member ∧
        given' = given ++ settings.map Setting.entry ∧ (given'.map Prod.fst).Nodup := by
  induction members generalizing given with
  | nil =>
    rw [List.foldlM_nil]
    constructor
    · intro h
      obtain rfl : given = given' := Option.some.inj h
      exact ⟨[], by simp, rfl, by simp, hgiven⟩
    · rintro ⟨settings, -, hsettings, rfl, -⟩
      rw [List.map_eq_nil_iff.1 hsettings.symm]
      simp
  | cons m members ih =>
    rw [List.foldlM_cons, Option.bind_eq_bind, Option.bind_eq_some_iff]
    simp only [collect_eq_some_iff]
    constructor
    · rintro ⟨given₁, ⟨hm, hfield, rfl⟩ | ⟨s, rfl, hnone, rfl⟩, hrest⟩
      · obtain ⟨settings, hnamed, hfilter, rfl, hnodup⟩ := (ih hgiven).1 hrest
        refine ⟨settings, List.forall_mem_cons.2 ⟨hm, hnamed⟩, ?_, rfl, hnodup⟩
        rw [List.filter_cons_of_neg (by simp [hfield]), hfilter]
      · have hnodup₁ := (lookup_name_eq_none_iff hgiven s).1 hnone
        obtain ⟨settings, hnamed, hfilter, rfl, hnodup⟩ := (ih hnodup₁).1 hrest
        refine ⟨s :: settings, ?_, ?_, by simp, hnodup⟩
        · exact List.forall_mem_cons.2 ⟨Option.some_ne_none s.name, hnamed⟩
        · rw [List.filter_cons_of_pos (isField_member s), hfilter, List.map_cons]
    · rintro ⟨settings, hnamed, hfilter, rfl, hnodup⟩
      obtain ⟨hm, hmembers⟩ := List.forall_mem_cons.1 hnamed
      by_cases hfield : isField m = true
      · rw [List.filter_cons_of_pos hfield] at hfilter
        obtain ⟨s, later, rfl, rfl, hlater⟩ := List.map_eq_cons_iff.1 hfilter.symm
        have hnodup₁ : ((given ++ [s.entry]).map Prod.fst).Nodup := by
          rw [List.map_cons, List.append_cons, List.map_append] at hnodup
          exact hnodup.of_append_left
        refine ⟨_, .inr ⟨s, rfl, (lookup_name_eq_none_iff hgiven s).2 hnodup₁, rfl⟩, ?_⟩
        refine (ih hnodup₁).2 ⟨later, hmembers, hlater.symm, ?_, hnodup⟩
        rw [List.map_cons, List.append_cons]
      · have hfield : isField m = false := by simpa using hfield
        rw [List.filter_cons_of_neg (by simp [hfield])] at hfilter
        refine ⟨given, .inl ⟨hm, hfield, rfl⟩, ?_⟩
        exact (ih hgiven).2 ⟨settings, hmembers, hfilter, rfl, hnodup⟩

/-! ## The configuration that is read -/

theorem ofValue_concat {given : List (String × Value)} {s : Setting}
    (h : given.lookup s.name = none) :
    ofValue (.object (given ++ [s.entry])) = s.replaceIn (ofValue (.object given)) := by
  have hget (name : String) : (Value.object (given ++ [s.entry])).get? name =
      if name = s.name then some s.value else (Value.object given).get? name := by
    rw [Value.get?, Value.get?, List.lookup_append]
    by_cases hname : name = s.name
    · rw [hname, h, if_pos rfl, Setting.entry, List.lookup_cons_self, Option.none_or]
    · simp [hname, Setting.entry, List.lookup_cons, beq_false_of_ne hname]
  simp only [ofValue, hget]
  cases s <;> simp [Setting.name, Setting.value, Setting.replaceIn, strings?_array, Value.string?,
    Value.bool?]

theorem ofValue_entries {settings : List Setting}
    (honce : ((settings.map Setting.entry).map Prod.fst).Nodup) :
    ofValue (.object (settings.map Setting.entry)) = overlay settings := by
  induction settings using List.reverseRecOn with
  | nil => rfl
  | append_singleton settings s ih =>
    rw [List.map_append, List.map_singleton] at honce ⊢
    have hlater : ((settings.map Setting.entry).map Prod.fst).Nodup := by
      rw [List.map_append] at honce
      exact honce.of_append_left
    have hnone := (lookup_name_eq_none_iff hlater s).2 honce
    rw [ofValue_concat hnone, ih hlater, overlay, overlay, List.foldl_concat]

theorem ofValue_inOrder (given : List (String × Value)) :
    ofValue (inOrder fields given) = ofValue (.object given) := by
  simp only [ofValue, get?_inOrder]
  rfl

section

variable {text : String} {members : List (Option String × Datum)}

theorem toOption_ofText (h : IsSpelled text (.object members)) :
    (ofText text).toOption =
      (members.foldlM (collect fields means) []).map fun given ↦ ofValue (inOrder fields given) := by
  cases h with
  | element hbefore hvalue hafter =>
    have hlead := (dropWhile_of_blanks hbefore).trans (dropWhile_of_spells hvalue)
    have hrecord := decides_record understands_means "AnalyzerConfig" hvalue hlead
    rw [ofText, reader, Reader.toOption_ofText (hrecord.map ofValue) hafter, Option.map_map]
    rfl

theorem ofText_eq_ok_iff (h : IsSpelled text (.object members)) (c : Config) :
    ofText text = .ok c ↔ ∃ settings, Gives members settings ∧ overlay settings = c := by
  have hoption : ofText text = .ok c ↔ (ofText text).toOption = some c := by
    cases ofText text <;> simp [Except.toOption]
  have honce (settings : List Setting) : (settings.map Setting.entry).map Prod.fst =
      settings.map Setting.name := List.map_map
  rw [hoption, toOption_ofText h, Option.map_eq_some_iff]
  simp only [@foldlM_collect_eq_some_iff members [] _ List.nodup_nil, ofValue_inOrder,
    List.nil_append]
  constructor
  · rintro ⟨_, ⟨settings, hnamed, hgiven, rfl, hnodup⟩, rfl⟩
    exact ⟨settings, ⟨hnamed, hgiven, honce settings ▸ hnodup⟩, (ofValue_entries hnodup).symm⟩
  · rintro ⟨settings, ⟨hnamed, hgiven, hnodup⟩, rfl⟩
    rw [← honce] at hnodup
    exact ⟨_, ⟨settings, hnamed, hgiven, rfl, hnodup⟩, ofValue_entries hnodup⟩

theorem exists_ofText_eq_error (h : IsSpelled text (.object members))
    (hnone : ∀ settings, ¬Gives members settings) : ∃ e, ofText text = .error e := by
  cases htext : ofText text with
  | error e => exact ⟨e, rfl⟩
  | ok c =>
    obtain ⟨settings, hgives, -⟩ := (ofText_eq_ok_iff h c).1 htext
    exact absurd hgives (hnone settings)

/-- An object is read as the default configuration with the fields replaced that it gives, whatever its
other members are. It is no configuration if it gives a field twice or by a value of another kind. The
order of the members and the members that are no field make no difference. -/
theorem ofText_overlay (h : IsSpelled text (.object members)) :
    (∀ settings, Gives members settings → ofText text = .ok (overlay settings)) ∧
      (¬((members.filter isField).map Prod.fst).Nodup → ∃ e, ofText text = .error e) ∧
      ((∃ m ∈ members, isField m = true ∧ ∀ s : Setting, s.member ≠ m) →
        ∃ e, ofText text = .error e) ∧
      ∀ text' members', IsSpelled text' (.object members') → (∀ m ∈ members, m.1 ≠ none) →
        (∀ m ∈ members', m.1 ≠ none) → (members'.filter isField).Perm (members.filter isField) →
        ∀ c, ofText text' = .ok c ↔ ofText text = .ok c := by
  refine ⟨fun settings hgives ↦ ?_, fun hrepeated ↦ ?_, ?_, ?_⟩
  · exact (ofText_eq_ok_iff h _).2 ⟨settings, hgives, rfl⟩
  · exact exists_ofText_eq_error h fun settings hgives ↦ hrepeated hgives.nodup
  · rintro ⟨m, hm, hfield, hnone⟩
    refine exists_ofText_eq_error h fun settings hgives ↦ ?_
    obtain ⟨s, hs⟩ := hgives.exists_member hm hfield
    exact hnone s hs
  · intro text' members' h' hnamed hnamed' hperm c
    rw [ofText_eq_ok_iff h, ofText_eq_ok_iff h']
    constructor
    · rintro ⟨settings', hgives, rfl⟩
      exact hgives.exists_of_perm hnamed hperm.symm
    · rintro ⟨settings, hgives, rfl⟩
      exact hgives.exists_of_perm hnamed' hperm

end

/-- Two flags that are set in either order, with another member between them or none; a flag that is set
twice; and a flag that is set to nothing. -/
theorem ofText_overlay_flags :
    ofText " \x7b\"named_nodes_only\":true,\"y\":[null],\"follow_links\":true\x7d" =
        .ok { default with namedOnly := true, followLinks := true } ∧
      (∃ e, ofText "\x7b\"follow_links\":true,\"follow_links\":true\x7d" = .error e) ∧
      (∃ e, ofText "\x7b\"follow_links\":null\x7d" = .error e) ∧
      ∀ c, ofText "\x7b\"follow_links\":true,\"named_nodes_only\":true\x7d" = .ok c ↔
        ofText " \x7b\"named_nodes_only\":true,\"y\":[null],\"follow_links\":true\x7d" = .ok c := by
  have helement {d : Datum} {cs rest : List Char} (h : Spells (.value d) cs rest) :
      Spells (.element d) cs rest := .element (.none cs) h (.none rest)
  have hlinks := @name_of_plain "follow_links" (by simp)
  have hnamed := @name_of_plain "named_nodes_only" (by simp)
  have hother := @name_of_plain "y" (by simp)
  let links := (Setting.followLinks true).member
  let named := (Setting.namedOnly true).member
  let other : Option String × Datum := (some "y", .array [.null])
  have hmixed : IsSpelled " \x7b\"named_nodes_only\":true,\"y\":[null],\"follow_links\":true\x7d"
      (.object [named, other, links]) :=
    .element (.blank (by decide) (.none _)) (.object (.nextMember (hnamed _) (helement (.true _))
      (.nextMember (hother _) (helement (.array (.lastElement (helement (.null _)))))
        (.lastMember (hlinks _) (helement (.true _)))))) (.none _)
  have hswapped : IsSpelled "\x7b\"follow_links\":true,\"named_nodes_only\":true\x7d"
      (.object [links, named]) :=
    helement (.object (.nextMember (hlinks _) (helement (.true _))
      (.lastMember (hnamed _) (helement (.true _)))))
  have htwice : IsSpelled "\x7b\"follow_links\":true,\"follow_links\":true\x7d"
      (.object [links, links]) :=
    helement (.object (.nextMember (hlinks _) (helement (.true _))
      (.lastMember (hlinks _) (helement (.true _)))))
  have hnull : IsSpelled "\x7b\"follow_links\":null\x7d" (.object [(some "follow_links", .null)]) :=
    helement (.object (.lastMember (hlinks _) (helement (.null _))))
  refine ⟨?_, ?_, ?_, ?_⟩
  · exact (ofText_overlay hmixed).1 [.namedOnly true, .followLinks true]
      ⟨by simp [named, other, links, Setting.member], rfl, by simp [Setting.name]⟩
  · exact (ofText_overlay htwice).2.1 (by simp [links, isField, Setting.member, Setting.name])
  · refine (ofText_overlay hnull).2.2.1 ⟨_, List.mem_singleton_self _, rfl, fun s ↦ ?_⟩
    cases s <;> simp [Setting.member, Setting.datum]
  · refine (ofText_overlay hmixed).2.2.2 _ _ hswapped ?_ ?_ ?_
    · simp [named, other, links, Setting.member]
    · simp [named, links, Setting.member]
    · exact .swap _ _ _

end SourceSurvey.Config
