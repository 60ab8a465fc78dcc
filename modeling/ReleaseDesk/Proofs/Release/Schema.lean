import ReleaseDesk.Proofs.Wire.Conveyance
import ReleaseDesk.Release.Tools

/-! Satisfaction of JSON schemas, as far as the schemas of the tools need it: the type of a value,
an enumeration of texts, required members, and the schemas of the members that are described; other
members are unconstrained. A record is decoded member by member, with the default values of absent
members. -/

namespace ReleaseDesk

namespace Json

/-- The name of a type in a schema. -/
def typeName : Json → String
  | null => "null"
  | bool _ => "boolean"
  | number _ => "number"
  | string _ => "string"
  | array _ => "array"
  | object _ => "object"

/-- The value satisfies the schema. Members that the schema does not describe are unconstrained. -/
inductive Satisfies : Json → Json → Prop
  | intro {schema v : Json}
    (type : ∀ name, schema.member? "type" = some (.string name) → v.typeName = name)
    (enum : ∀ choices, schema.member? "enum" = some (.array choices) → v ∈ choices)
    (required : ∀ names name, schema.member? "required" = some (.array names) → .string name ∈ names →
      (v.member? name).isSome)
    (properties : ∀ ps p w, schema.member? "properties" = some (.object ps) → p ∈ ps →
      v.member? p.1 = some w → Satisfies p.2 w) :
    Satisfies schema v

theorem typeName_eq_string {v : Json} : v.typeName = "string" ↔ ∃ s, v = .string s := by
  cases v <;> simp [typeName]

theorem typeName_eq_boolean {v : Json} : v.typeName = "boolean" ↔ ∃ b, v = .bool b := by
  cases v <;> simp [typeName]

theorem typeName_eq_object {v : Json} : v.typeName = "object" ↔ ∃ ms, v = .object ms := by
  cases v <;> simp [typeName]

/-! ### Schemas in normal form -/

theorem member?_normal {ms : List (String × Json)} (h : (ms.map (·.1)).Nodup) (key : String) :
    (object ms).normal.member? key = (ms.lookup key).map normal := by
  have hkeys : ((normalMembers ms).map (·.1)).Nodup := by rwa [keys_normalMembers]
  have hlookup := lookup_sortMembers hkeys key
  rwa [lookup_normalMembers] at hlookup

theorem normal_strings (ss : List String) : (strings ss).normal = strings ss := by
  have hitems : normalItems (ss.map string) = ss.map string := by
    induction ss with
    | nil => rfl
    | cons s ss ih => rw [List.map_cons, normalItems, ih, normal]
  rw [strings, normal, hitems]

section

variable {ms : List (String × Json)}

/-- Normal form acts on the members of an object. -/
theorem mem_normal_iff (h : (ms.map (·.1)).Nodup) {m : String × Json} :
    m ∈ sortMembers (normalMembers ms) ↔ ∃ n ∈ ms, (n.1, n.2.normal) = m := by
  rw [← List.mem_map, ← normalMembers_eq_map]
  refine ⟨mem_sortMembers, fun hm => ?_⟩
  have hkeys : ((normalMembers ms).map (·.1)).Nodup := by rwa [keys_normalMembers]
  have hlookup := lookup_sortMembers hkeys m.1
  rw [lookup_eq_some_of_mem hkeys hm] at hlookup
  obtain ⟨before, after, hsplit, -⟩ := List.lookup_eq_some_iff.mp hlookup
  rw [hsplit]
  exact List.mem_append_right _ List.mem_cons_self

/-- Satisfaction of the normal form of a schema with a type, an enumeration, required members and
described members. -/
theorem satisfies_normal_iff (h : (ms.map (·.1)).Nodup) {v : Json} (type : String)
    (enum required : Option (List String)) (properties : Option (List (String × Json)))
    (htype : ms.lookup "type" = some (.string type)) (henum : ms.lookup "enum" = enum.map strings)
    (hrequired : ms.lookup "required" = required.map strings)
    (hproperties : ms.lookup "properties" = properties.map object)
    (hkeys : ∀ ps ∈ properties, (ps.map (·.1)).Nodup) :
    Satisfies (object ms).normal v ↔
      v.typeName = type ∧ (∀ choices ∈ enum, ∃ s ∈ choices, v = .string s) ∧
      (∀ names ∈ required, ∀ name ∈ names, (v.member? name).isSome) ∧
      ∀ ps ∈ properties, ∀ p ∈ ps, ∀ w, v.member? p.1 = some w → Satisfies p.2.normal w := by
  have ht : (object ms).normal.member? "type" = some (.string type) := by
    rw [member?_normal h, htype]
    rfl
  have he : (object ms).normal.member? "enum" = enum.map strings := by
    rw [member?_normal h, henum, Option.map_map]
    exact congrArg (Option.map · enum) (funext normal_strings)
  have hr : (object ms).normal.member? "required" = required.map strings := by
    rw [member?_normal h, hrequired, Option.map_map]
    exact congrArg (Option.map · required) (funext normal_strings)
  have hp : (object ms).normal.member? "properties" =
      properties.map fun ps => object (sortMembers (normalMembers ps)) := by
    rw [member?_normal h, hproperties, Option.map_map]
    exact congrArg (Option.map · properties) (funext fun _ => rfl)
  constructor
  · rintro ⟨htypes, hchoices, hneeds, hmembers⟩
    refine ⟨htypes _ ht, fun choices hc => ?_, fun names hn name hname => ?_, fun ps hps p hmem w hw => ?_⟩
    · rw [hc] at he
      obtain ⟨s, hs, heq⟩ := List.mem_map.mp (hchoices _ he)
      exact ⟨s, hs, heq.symm⟩
    · rw [hn] at hr
      exact hneeds _ name hr (List.mem_map_of_mem hname)
    · rw [hps] at hp
      exact hmembers _ (p.1, p.2.normal) w hp ((mem_normal_iff (hkeys ps hps)).mpr ⟨p, hmem, rfl⟩) hw
  · rintro ⟨htypes, hchoices, hneeds, hmembers⟩
    refine .intro (fun name hname => ?_) (fun vs hvs => ?_) (fun vs name hvs hname => ?_)
      fun qs q w hqs hq hw => ?_
    · cases ht.symm.trans hname
      exact htypes
    · obtain ⟨choices, hc, heq⟩ := Option.map_eq_some_iff.mp (he.symm.trans hvs)
      cases heq
      obtain ⟨s, hs, rfl⟩ := hchoices choices hc
      exact List.mem_map_of_mem hs
    · obtain ⟨names, hn, heq⟩ := Option.map_eq_some_iff.mp (hr.symm.trans hvs)
      cases heq
      obtain ⟨s, hs, heq⟩ := List.mem_map.mp hname
      exact hneeds names hn name (string.inj heq ▸ hs)
    · obtain ⟨ps, hps, heq⟩ := Option.map_eq_some_iff.mp (hp.symm.trans hqs)
      cases heq
      obtain ⟨p, hmem, rfl⟩ := (mem_normal_iff (hkeys ps hps)).mp hq
      exact hmembers ps hps p hmem w hw

end

/-! ### Members in normal form -/

theorem nodup_of_normal {ms : List (String × Json)} (h : (object ms).normal = .object ms) :
    (ms.map (·.1)).Nodup := by
  have hsorted : sortMembers (normalMembers ms) = ms := object.inj h
  rw [← hsorted]
  exact (ascending_sortMembers _).nodup

theorem normal_of_lookup {ms : List (String × Json)} (h : (object ms).normal = .object ms)
    {key : String} {v : Json}
    (hv : ms.lookup key = some v) : v.normal = v := by
  have hmember := member?_normal (nodup_of_normal h) key
  rw [h, hv] at hmember
  exact (Option.some.inj (hv.symm.trans hmember)).symm

/-- A member that has the given form if it is present. -/
theorem exists_member {v : Json} {name : String} {f : β → Json}
    (h : ∀ w, v.member? name = some w → ∃ b, w = f b) : ∃ x : Option β, v.member? name = x.map f := by
  cases hw : v.member? name with
  | none => exact ⟨none, rfl⟩
  | some w =>
    obtain ⟨b, rfl⟩ := h w hw
    exact ⟨some b, rfl⟩

theorem exists_text {v : Json} {name : String} (h : ∀ w, v.member? name = some w → w.typeName = "string") :
    ∃ s : Option String, v.member? name = s.map .string :=
  exists_member fun w hw => typeName_eq_string.mp (h w hw)

theorem exists_flag {v : Json} {name : String} (h : ∀ w, v.member? name = some w → w.typeName = "boolean") :
    ∃ b : Option Bool, v.member? name = b.map .bool :=
  exists_member fun w hw => typeName_eq_boolean.mp (h w hw)

end Json

/-! ### Decoding from members -/

namespace Wire

open Json

namespace Fields

/-- Fields with these names decode the members `ms` of an object as `a`, with the given origin. -/
structure Decodes (f : Fields σ α) (names : List String) (o : Origin) (ms : List (String × Json))
    (a : α) : Prop where
  ignores : ∀ key ∉ names, f.Ignore key
  gives : f.Give o ms a

variable {o : Origin} {ms : List (String × Json)}

theorem decodes_nothing (a : α) : (nothing a : Fields σ α).Decodes [] o ms a :=
  ⟨fun key _ => nothing_ignore a key, give_nothing_iff.mpr rfl⟩

/-- One member, present or absent. -/
theorem decodes_one {m : Member α} {get : σ → α} (hnodup : (ms.map (·.1)).Nodup) {f : β → Json} {x : Option β}
    {a : α} (hx : ms.lookup m.name = x.map f) (hread : ∀ b ∈ x, m.read o (.ofJson (f b)) = .ok a)
    (habsent : x = none → m.absent = some a) : (one m get).Decodes [m.name] o ms a where
  ignores key hkey := one_ignore (List.ne_of_not_mem_cons hkey)
  gives := by
    cases x with
    | none => exact give_one_absent hnodup hx (habsent rfl)
    | some b => exact give_one_present hnodup hx (hread b rfl)

theorem decodes_text {m : Member (Option String)} {get : σ → Option String} {name : String}
    (hname : m.name = name)
    (hread : m.read = Codec.string.nullable.read) (habsent : m.absent = some none)
    (hnodup : (ms.map (·.1)).Nodup) {s : Option String} (hs : ms.lookup name = s.map .string) :
    (one m get).Decodes [name] o ms s := by
  subst hname
  refine decodes_one hnodup hs ?_ fun hnone => hnone ▸ habsent
  rintro text rfl
  rw [hread]
  rfl

theorem decodes_explicit {get : σ → Option String} (hnodup : (ms.map (·.1)).Nodup) {name : String}
    {s : Option String}
    (hs : ms.lookup name = s.map .string) :
    (one ((Member.explicit name .string).orElse none) get).Decodes [name] o ms s :=
  decodes_text rfl rfl rfl hnodup hs

theorem decodes_optional {get : σ → Option String} (hnodup : (ms.map (·.1)).Nodup) {name : String}
    {s : Option String}
    (hs : ms.lookup name = s.map .string) :
    (one ((Member.optional name .string).orElse none) get).Decodes [name] o ms s :=
  decodes_text rfl rfl rfl hnodup hs

/-- A text with a default. -/
theorem decodes_string {get : σ → String} (hnodup : (ms.map (·.1)).Nodup) {name default s : String}
    (hs : ms.lookup name = some (.string s)) :
    (defaulted name .string default get).Decodes [name] o ms s := by
  refine decodes_one (x := some s) (f := .string) hnodup hs ?_ nofun
  rintro _ ⟨⟩
  rfl

/-- A flag with a default. -/
theorem decodes_flag {get : σ → Bool} (hnodup : (ms.map (·.1)).Nodup) {name : String} {default : Bool}
    {b : Option Bool} (hb : ms.lookup name = b.map .bool) :
    (defaulted name .bool default get).Decodes [name] o ms (b.getD default) := by
  refine decodes_one hnodup hb ?_ ?_
  · rintro b rfl
    rfl
  · rintro rfl
    rfl

/-- Fields with disjoint names decode independently. -/
theorem Decodes.both {f : Fields σ (α → β)} {x : Fields σ α} {ns ks : List String} {g : α → β} {a : α}
    (hf : f.Decodes ns o ms g) (hx : x.Decodes ks o ms a) (hnames : (ns ++ ks).Nodup := by decide) :
    (f.both x).Decodes (ns ++ ks) o ms (g a) where
  ignores key hkey := by
    rw [List.mem_append, not_or] at hkey
    exact both_ignore (hf.ignores key hkey.1) (hx.ignores key hkey.2)
  gives := by
    refine hf.gives.both hx.gives fun key => ?_
    by_cases hkey : key ∈ ns
    · exact .inr (hx.ignores key fun hk => (List.nodup_append.mp hnames).2.2 key hkey key hk rfl)
    · exact .inl (hf.ignores key hkey)

end Fields

/-- An object decodes as the record of the values of its fields. -/
theorem Record.ofJson_of_decodes {r : Record α} {names : List String} {ms : List (String × Json)} {a : α}
    (hv : (object ms).normal = .object ms) (h : r.fields.Decodes names .tree ms a) :
    r.codec.ofJson (.object ms) = .ok a := by
  rw [Codec.ofJson, hv]
  exact read_object_iff.mpr h.gives

end Wire

namespace Release

open Json

variable {v : Json}

theorem satisfies_argument_iff (name type description : String) :
    Satisfies (argument name type description).2.normal v ↔ v.typeName = type := by
  have hkeys : (["type", "description"] : List String).Nodup := by decide
  refine (satisfies_normal_iff ?_ type none none none rfl rfl rfl rfl nofun).trans ?_
  · exact hkeys
  · simp

/-- The schema of a text argument with an enumeration. -/
theorem satisfies_choice_iff (name description : String) {choices : List String} {rest : List (String × Json)}
    (hkeys : ("type" :: "description" :: "enum" :: rest.map (·.1)).Nodup)
    (hrequired : rest.lookup "required" = none) (hproperties : rest.lookup "properties" = none) :
    Satisfies (argument name "string" description (("enum", strings choices) :: rest)).2.normal v ↔
      ∃ s ∈ choices, v = .string s := by
  refine (satisfies_normal_iff ?_ "string" (some choices) none none rfl rfl ?_ ?_ nofun).trans ?_
  · exact hkeys
  · exact hrequired
  · exact hproperties
  · have hstring : (∃ s ∈ choices, v = .string s) → v.typeName = "string" := by
      rintro ⟨s, -, rfl⟩
      rfl
    simpa using hstring

theorem satisfies_objectSchema_iff {members : List (String × Json)} (h : (members.map (·.1)).Nodup)
    (required : List String) :
    Satisfies (objectSchema members required).normal v ↔
      (∃ ms, v = .object ms) ∧ (∀ name ∈ required, (v.member? name).isSome) ∧
      ∀ p ∈ members, ∀ w, v.member? p.1 = some w → Satisfies p.2.normal w := by
  have hmembers : ∀ ps ∈ some members, (ps.map (·.1)).Nodup := by
    rintro ps ⟨⟩
    exact h
  have hplain : (["type", "properties"] : List String).Nodup := by decide
  have hneeding : (["type", "properties", "required"] : List String).Nodup := by decide
  rw [← typeName_eq_object]
  by_cases hempty : required = []
  · subst hempty
    refine (satisfies_normal_iff ?_ "object" none none (some members) rfl rfl rfl rfl hmembers).trans ?_
    · exact hplain
    · simp
  · rw [objectSchema, if_neg hempty]
    refine (satisfies_normal_iff ?_ "object" none (some required)
      (some members) rfl rfl rfl rfl hmembers).trans ?_
    · exact hneeding
    · simp

end Release

end ReleaseDesk
