import Lemmata.Proofs.Digest.Collision
import Lemmata.Proofs.Effect.BuiltIn
import Lemmata.Proofs.Names

/-! # What a plan's hash covers -/

namespace Lemmata

theorem map_eq_map_iff_of_iff {α β γ : Type} {f : α → β} {g : α → γ}
    (hfg : ∀ a b, f a = f b ↔ g a = g b) (as bs : List α) : as.map f = bs.map f ↔ as.map g = bs.map g := by
  induction as generalizing bs with
  | nil => cases bs <;> simp
  | cons a as ih =>
    cases bs with
    | nil => simp
    | cons b bs => rw [List.map_cons, List.map_cons, List.map_cons, List.map_cons,
        List.cons.injEq, List.cons.injEq, hfg, ih]

theorem Language.code_inj {l m : Language} : l.code = m.code ↔ l = m := by
  cases l <;> cases m <;> decide

/-! ## Calls -/

namespace Call

variable {a b : Call} {cs ds : List Call}

/-- The call without the priority and the expected type. -/
def bare (c : Call) : Call :=
  { c with priority := 0, expects := "" }

theorem bare_eq_iff : a.bare = b.bare ↔ a.tool = b.tool ∧ a.id = b.id ∧ a.endpoint = b.endpoint ∧
    a.params = b.params ∧ a.stage = b.stage ∧ a.optional = b.optional := by
  simp [bare]

theorem map_bare_id (cs : List Call) : (cs.map bare).map Call.id = cs.map Call.id := by
  rw [List.map_map]
  rfl

theorem plain_identity (c : Call) : c.identity.Plain 2 := by
  refine .object (by simp) ?_
  simp only [List.forall_mem_cons]
  exact ⟨.string _, .string _, .string _, .ofDict _, .string _, .bool _, nofun⟩

theorem sorted_identity (c : Call) : c.identity.sorted = .object [
    ("call_id", .string c.id), ("endpoint", .string c.endpoint), ("optional", .bool c.optional),
    ("params", .ofDict c.params), ("stage", .string c.stage.name), ("tool", .string c.tool)] := by
  have hkeys : ["call_id", "endpoint", "optional", "params", "stage", "tool"].Pairwise (· < ·) := by
    decide
  refine Json.sorted_object_of_perm ?_ hkeys
  simp only [Json.sortedMembers, Json.sorted, Json.sorted_ofDict]
  grind

theorem sorted_identity_eq_iff : a.identity.sorted = b.identity.sorted ↔ a.bare = b.bare := by
  rw [sorted_identity, sorted_identity, bare_eq_iff]
  simp only [Json.object.injEq, List.cons.injEq, Prod.mk.injEq, Json.string.injEq, Json.bool.injEq,
    Json.ofDict_inj, Stage.name_inj, true_and, and_true]
  tauto

theorem idLe_trans (a b c : Call) (hab : idLe a b = true) (hbc : idLe b c = true) :
    idLe a c = true :=
  nameLe_trans a.id b.id c.id hab hbc

theorem idLe_total (a b : Call) : (idLe a b || idLe b a) = true :=
  nameLe_total a.id b.id

theorem sorted_identities_eq_iff (hcs : (cs.map Call.id).Nodup) :
    ((cs.mergeSort idLe).map fun c => c.identity.sorted) =
        ((ds.mergeSort idLe).map fun c => c.identity.sorted) ↔
      (cs.map bare).Perm (ds.map bare) := by
  have hmap : ∀ cs : List Call, (cs.mergeSort idLe).map bare = (cs.map bare).mergeSort idLe :=
    fun cs => List.map_mergeSort fun _ _ _ _ => rfl
  rw [map_eq_map_iff_of_iff fun _ _ => sorted_identity_eq_iff, hmap, hmap]
  refine mergeSort_eq_iff_perm idLe_trans idLe_total fun a ha b hb hab hba => ?_
  have hid : a.id = b.id := String.le_antisymm (nameLe_iff.mp hab) (nameLe_iff.mp hba)
  exact List.inj_on_of_nodup_map (map_bare_id cs ▸ hcs) ha hb hid

end Call

/-! ## Dependencies -/

namespace Dependency

variable {ds es : List Dependency}

theorem endsLe_iff {a b : String × String} :
    endsLe a b = true ↔ a.1 < b.1 ∨ a.1 = b.1 ∧ a.2 ≤ b.2 := by
  unfold endsLe
  split
  · next heq => simp [heq, nameLe_iff]
  · next hne =>
    rw [nameLe_iff]
    constructor
    · intro hle
      exact .inl (Std.lt_of_le_of_ne hle hne)
    · rintro (hlt | ⟨heq, -⟩)
      · exact Std.le_of_lt hlt
      · exact absurd heq hne

theorem endsLe_trans (a b c : String × String) (hab : endsLe a b = true)
    (hbc : endsLe b c = true) : endsLe a c = true := by
  rw [endsLe_iff] at *
  rcases hab with hab | ⟨heq, hab⟩ <;> rcases hbc with hbc | ⟨heq', hbc⟩
  · exact .inl (String.lt_trans hab hbc)
  · exact .inl (heq' ▸ hab)
  · exact .inl (heq ▸ hbc)
  · exact .inr ⟨heq.trans heq', String.le_trans hab hbc⟩

theorem endsLe_total (a b : String × String) : (endsLe a b || endsLe b a) = true := by
  rw [Bool.or_eq_true, endsLe_iff, endsLe_iff]
  rcases Std.lt_trichotomy a.1 b.1 with hlt | heq | hgt
  · exact .inl (.inl hlt)
  · exact (String.le_total a.2 b.2).imp (fun h => .inr ⟨heq, h⟩) fun h => .inr ⟨heq.symm, h⟩
  · exact .inr (.inl hgt)

theorem endsLe_antisymm {a b : String × String} (hab : endsLe a b = true)
    (hba : endsLe b a = true) : a = b := by
  rw [endsLe_iff] at *
  rcases hab with hab | ⟨heq, hab⟩ <;> rcases hba with hba | ⟨heq', hba⟩
  · exact absurd hba (String.lt_asymm hab)
  · exact absurd hab (heq' ▸ String.lt_irrefl _)
  · exact absurd hba (heq ▸ String.lt_irrefl _)
  · exact Prod.ext heq (String.le_antisymm hab hba)

theorem sorted_identity_eq_iff {a b : String × String} :
    (identity a).sorted = (identity b).sorted ↔ a = b := by
  rw [identity, identity, Json.sorted_ofStrings, Json.sorted_ofStrings, Prod.ext_iff]
  simp [Json.ofStrings]

theorem sorted_identities_eq_iff :
    (((ds.map ends).mergeSort endsLe).map fun e => (identity e).sorted) =
        (((es.map ends).mergeSort endsLe).map fun e => (identity e).sorted) ↔
      (ds.map ends).Perm (es.map ends) := by
  rw [List.map_inj_right fun _ _ => sorted_identity_eq_iff.mp]
  exact mergeSort_eq_iff_perm endsLe_trans endsLe_total fun _ _ _ _ => endsLe_antisymm

end Dependency

/-! ## Queries -/

namespace Query

variable {p q : Query}

/-- What the candidates are looked up by: not where they come from. -/
def forms (q : Query) : List (String × Dict) :=
  q.candidates.map fun c => (c.headword, c.encodings)

def candidateIdentity (c : Candidate) : Json :=
  .object [("lemma", .string c.headword), ("encodings", .ofDict c.encodings)]

theorem plain_identity (q : Query) : q.identity.Plain 4 := by
  refine .object (by simp) ?_
  simp only [List.forall_mem_cons]
  refine ⟨.string _, .string _, .array fun v hv => ?_, nofun⟩
  obtain ⟨c, -, rfl⟩ := List.mem_map.mp hv
  refine .object (by simp) ?_
  simp only [List.forall_mem_cons]
  exact ⟨.string _, .ofDict _, nofun⟩

theorem sorted_candidateIdentity (c : Candidate) : (candidateIdentity c).sorted =
    .object [("encodings", .ofDict c.encodings), ("lemma", .string c.headword)] := by
  have hkeys : ["encodings", "lemma"].Pairwise (· < ·) := by decide
  refine Json.sorted_object_of_perm ?_ hkeys
  simp only [Json.sortedMembers, Json.sorted, Json.sorted_ofDict]
  exact .swap _ _ _

theorem sorted_candidateIdentity_eq_iff (c d : Candidate) :
    (candidateIdentity c).sorted = (candidateIdentity d).sorted ↔
      (c.headword, c.encodings) = (d.headword, d.encodings) := by
  rw [sorted_candidateIdentity, sorted_candidateIdentity]
  simp [Json.ofDict_inj, and_comm]

theorem sorted_identity (q : Query) : q.identity.sorted = .object [
    ("candidates", .array (q.candidates.map fun c => (candidateIdentity c).sorted)),
    ("language", .string q.language.code), ("original", .string q.typed)] := by
  have hkeys : ["candidates", "language", "original"].Pairwise (· < ·) := by decide
  refine Json.sorted_object_of_perm ?_ hkeys
  simp only [Json.sortedMembers, Json.sorted, Json.sortedItems_eq_map, List.map_map]
  exact (List.reverse_perm _).symm

theorem sorted_identity_eq_iff : p.identity.sorted = q.identity.sorted ↔
    p.typed = q.typed ∧ p.language = q.language ∧ p.forms = q.forms := by
  rw [sorted_identity, sorted_identity, forms, forms,
    ← map_eq_map_iff_of_iff sorted_candidateIdentity_eq_iff]
  simp only [Json.object.injEq, List.cons.injEq, Prod.mk.injEq, Json.string.injEq,
    Json.array.injEq, Language.code_inj, true_and, and_true]
  tauto

end Query

/-! ## Plans -/

namespace Plan

variable {p q : Query} {cs ds : List Call} {es fs : List Dependency}

theorem plain_material (q : Query) (cs : List Call) (es : List Dependency) :
    (material q cs es).Plain Json.Reader.nestingLimit := by
  refine Json.Plain.mono (m := 5) (.object (by simp) ?_) (by decide)
  simp only [List.forall_mem_cons]
  refine ⟨q.plain_identity, .array fun v hv => ?_, .array fun v hv => ?_, nofun⟩
  · obtain ⟨c, -, rfl⟩ := List.mem_map.mp hv
    exact c.plain_identity.mono (by decide)
  · obtain ⟨ends, -, rfl⟩ := List.mem_map.mp hv
    exact .ofStrings _

theorem hash_eq_iff_sorted_eq {id id' : String}
    (hcollision : Json.NoCollision (material p cs es) (material q ds fs)) :
    (freeze id p cs es).hash = (freeze id' q ds fs).hash ↔
      (material p cs es).sorted = (material q ds fs).sorted := by
  calc (freeze id p cs es).hash = (freeze id' q ds fs).hash
    _ ↔ (material p cs es).canonical = (material q ds fs).canonical := hcollision.digest_eq_iff
    _ ↔ (material p cs es).sorted = (material q ds fs).sorted :=
      (plain_material p cs es).canonical_eq_iff (plain_material q ds fs)

theorem sorted_material (q : Query) (cs : List Call) (es : List Dependency) :
    (material q cs es).sorted = .object [
      ("calls", .array ((cs.mergeSort Call.idLe).map fun c => c.identity.sorted)),
      ("dependencies", .array (((es.map Dependency.ends).mergeSort Dependency.endsLe).map
        fun e => (Dependency.identity e).sorted)),
      ("query", q.identity.sorted)] := by
  have hkeys : ["calls", "dependencies", "query"].Pairwise (· < ·) := by decide
  refine Json.sorted_object_of_perm ?_ hkeys
  simp only [Json.sortedMembers, Json.sorted, Json.sortedItems_eq_map, List.map_map]
  exact .trans (.swap _ _ _) (.cons _ (.swap _ _ _))

theorem sorted_material_eq_iff (hcs : (cs.map Call.id).Nodup) :
    (material p cs es).sorted = (material q ds fs).sorted ↔
      (cs.map Call.bare).Perm (ds.map Call.bare) ∧
      (es.map Dependency.ends).Perm (fs.map Dependency.ends) ∧
      p.typed = q.typed ∧ p.language = q.language ∧ p.forms = q.forms := by
  rw [← Call.sorted_identities_eq_iff hcs, ← Dependency.sorted_identities_eq_iff,
    ← Query.sorted_identity_eq_iff, sorted_material, sorted_material]
  simp only [Json.object.injEq, List.cons.injEq, Prod.mk.injEq, Json.array.injEq, true_and,
    and_true]

/-- The hash tells plans apart exactly by the work that they ask for: neither the order of calls
and dependencies counts, nor priorities, expected types, rationales, sources and normalizations. -/
theorem hash_eq_iff_same_work {id id' : String} (hcs : (cs.map Call.id).Nodup)
    (hcollision : Json.NoCollision (material p cs es) (material q ds fs)) :
    (freeze id p cs es).hash = (freeze id' q ds fs).hash ↔
      (cs.map Call.bare).Perm (ds.map Call.bare) ∧
      (es.map Dependency.ends).Perm (fs.map Dependency.ends) ∧
      p.typed = q.typed ∧ p.language = q.language ∧ p.forms = q.forms := by
  rw [hash_eq_iff_sorted_eq hcollision, sorted_material_eq_iff hcs]

def inOrder : List Call :=
  [{ tool := "fetch.pages", id := "page", endpoint := "http://pages", stage := .fetch },
   { tool := "extract.pages", id := "words", endpoint := "http://pages", stage := .extract }]

def reversed : List Call :=
  inOrder.reverse.map fun c => { c with priority := 2 }

def amor (sources : List String) : Query where
  typed := "amor"
  language := .latin
  candidates := [{ headword := "amo", sources }]

def pageFirst (rationale : Option String) : List Dependency :=
  [⟨"page", "words", rationale⟩]

theorem perm_reversed : (inOrder.map Call.bare).Perm (reversed.map Call.bare) := by
  decide

theorem canonical_reversed : (material (amor []) inOrder (pageFirst none)).canonical =
    (material (amor ["a list"]) reversed (pageFirst "input")).canonical :=
  congrArg Json.text <|
    (sorted_material_eq_iff (by decide)).mpr ⟨perm_reversed, .refl _, rfl, rfl, rfl⟩

def pageFrom (endpoint : String) : List Call :=
  [{ tool := "fetch.pages", id := "page", endpoint, stage := .fetch }]

theorem sorted_pageFrom (endpoint : String) :
    (material (amor []) (pageFrom endpoint) []).sorted = .object [
      ("calls", .array [.object [("call_id", .string "page"), ("endpoint", .string endpoint),
        ("optional", .bool false), ("params", .object []), ("stage", .string "fetch"),
        ("tool", .string "fetch.pages")]]),
      ("dependencies", .array []),
      ("query", .object [
        ("candidates", .array [.object [("encodings", .object []), ("lemma", .string "amo")]]),
        ("language", .string "lat"), ("original", .string "amor")])] := by
  rw [sorted_material, pageFrom, List.mergeSort_singleton, List.map_singleton, Call.sorted_identity,
    List.map_nil, List.mergeSort_nil, Query.sorted_identity, amor, List.map_singleton,
    Query.sorted_candidateIdentity]
  rfl

theorem noCollision_pageFrom : Json.NoCollision (material (amor []) (pageFrom "http://pages") [])
    (material (amor []) (pageFrom "http://mirror") []) :=
  .of_sorted (sorted_pageFrom _) (sorted_pageFrom _) (by decide +kernel)

theorem hash_reversed :
    ((inOrder.map Call.id).Nodup ∧
      Json.NoCollision (material (amor []) inOrder (pageFirst none))
        (material (amor ["a list"]) reversed (pageFirst "input")) ∧
      (freeze "first" (amor []) inOrder (pageFirst none)).hash =
        (freeze "second" (amor ["a list"]) reversed (pageFirst "input")).hash) ∧
    Json.NoCollision (material (amor []) (pageFrom "http://pages") [])
      (material (amor []) (pageFrom "http://mirror") []) ∧
    (freeze "first" (amor []) (pageFrom "http://pages") []).hash ≠
      (freeze "first" (amor []) (pageFrom "http://mirror") []).hash := by
  have hnodup : (inOrder.map Call.id).Nodup := by decide
  have hcollision := Json.NoCollision.of_canonical_eq canonical_reversed
  refine ⟨⟨hnodup, hcollision, (hash_eq_iff_same_work hnodup hcollision).mpr
    ⟨perm_reversed, .refl _, rfl, rfl, rfl⟩⟩, noCollision_pageFrom, ?_⟩
  have hpage : ((pageFrom "http://pages").map Call.id).Nodup := by decide
  rw [ne_eq, hash_eq_iff_same_work hpage noCollision_pageFrom]
  rintro ⟨hcalls, -⟩
  have hpages : (pageFrom "http://pages").map Call.bare ≠
      (pageFrom "http://mirror").map Call.bare := by decide
  exact hpages (List.perm_singleton.mp hcalls)

end Plan

end Lemmata
