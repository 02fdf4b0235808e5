/-
ChatModeration.Proofs.Decision — what any combination of sanctions decides.

`Decision.ofEntries` says in closed form which infraction a collection of
sanctions amounts to, how long it lasts, and whether a rename goes with it and
for how long.  It mentions neither an order of the sanctions nor brackets, and
only asks which sanctions occur.  The main statement,
`Combination.result_decision`, is that combining the sanctions in any order,
in any bracketing and with any repetitions gives that decision.

The proof is an induction over the tree of combinations.  Its invariant
`Decides` is the closed form as a relation, so that every step only has to
compare which durations occur on both sides.
-/
import ChatModeration.Proofs.CombineCases
import ChatModeration.Proofs.DurationOrder

namespace ChatModeration

/-! ## The closed form -/

/-- A sanction without its texts. -/
structure Decision where
  infraction : Infraction
  /-- How long the infraction lasts; nothing without an infraction. -/
  duration : Option (Option Number)
  /-- How long the rename lasts that goes with it, if one does. -/
  rename : Option (Option Number)
deriving DecidableEq

/-- What a sanction decides, apart from its texts. -/
def Sanction.decision (s : Sanction) : Decision where
  infraction := s.infraction
  duration := if s.infraction = .none then none else some s.duration
  rename := s.superstar.map (·.duration)

namespace Decision

/-- The most severe primary infraction; failing that a superstar, failing that none. -/
def infractionOf (types : List Infraction) : Infraction :=
  (topOf? (fun i j => j.rank ≤ i.rank) (types.filter (·.role = .primary))).getD
    (if .superstar ∈ types then .superstar else .none)

/-- The durations of the sanctions with that infraction. -/
def durationsOf (i : Infraction) (entries : List Sanction) : List (Option Number) :=
  (entries.filter (·.infraction = i)).map (·.duration)

/-- The durations of the renames that sanctions carry and, beside a primary infraction, of the
superstars among them. -/
def renamesOf (result : Infraction.Role) (entries : List Sanction) : List (Option Number) :=
  entries.filterMap (fun s => s.superstar.map (·.duration)) ++
    if result = .primary then durationsOf .superstar entries else []

/-- What sanctions decide together. -/
def ofEntries (entries : List Sanction) : Decision :=
  let i := infractionOf (entries.map (·.infraction))
  let renames := renamesOf i.role entries
  { infraction := i
    duration := if i = .none then none else some (longestOf (durationsOf i entries))
    rename := if renames = [] then none else some (longestOf renames) }

end Decision

/-- Durations as they are configured: permanent, or finite and not below zero. -/
structure Sanction.ValidDurations (s : Sanction) : Prop where
  infraction : ∀ n ∈ s.duration, n.NonNegative
  rename : ∀ star ∈ s.superstar, ∀ n ∈ star.duration, n.NonNegative

/-- Sanctions being combined two at a time. -/
inductive Combination where
  | single (s : Sanction)
  | both (first second : Combination)

namespace Combination

/-- The sanctions that go in, from left to right, with repetitions. -/
def entries : Combination → List Sanction
  | single s => [s]
  | both first second => first.entries ++ second.entries

/-- The sanction that comes out. -/
def result : Combination → Sanction
  | single s => s
  | both first second => first.result.combine second.result

end Combination

/-! ## The closed form as a relation -/

open Decision

/-- `i` is what the infractions in the list amount to. -/
inductive IsDecided (types : List Infraction) : Infraction → Prop where
  | primary {i : Infraction} (role : i.role = .primary) (mem : i ∈ types)
      (least : ∀ j ∈ types, j.role = .primary → i.rank ≤ j.rank) : IsDecided types i
  | star (mem : .superstar ∈ types) (none : ∀ j ∈ types, j.role ≠ .primary) :
      IsDecided types .superstar
  | absent (all : ∀ j ∈ types, j = .none) : IsDecided types .none

/-- The rename lasts as long as the longest of the durations; without any there is none. -/
def IsRename (ds : List (Option Number)) : Option Superstar → Prop
  | none => ds = []
  | some star => IsLongest ds star.duration

/-- The sanction decides what the sanctions in the list decide together. -/
structure Decides (entries : List Sanction) (s : Sanction) : Prop where
  infraction : IsDecided (entries.map (·.infraction)) s.infraction
  duration : s.infraction ≠ .none → IsLongest (durationsOf s.infraction entries) s.duration
  rename : IsRename (renamesOf s.infraction.role entries) s.superstar

/-! ## The relation determines the closed form -/

theorem infractionOf_eq {types : List Infraction} {i : Infraction} (h : IsDecided types i) :
    infractionOf types = i := by
  cases h with
  | primary role mem least =>
    have htop : topOf? (fun i j => j.rank ≤ i.rank) (types.filter (·.role = .primary)) = some i := by
      refine topOf?_eq (fun j hij hji => ?_) ?_ ?_
      · simp only [decide_eq_true_eq] at hij hji
        exact Infraction.rank_injective (Nat.le_antisymm hij hji)
      · exact List.mem_filter.mpr ⟨mem, decide_eq_true role⟩
      · intro j hj
        obtain ⟨hj, hjr⟩ := List.mem_filter.mp hj
        exact decide_eq_true (least j hj (of_decide_eq_true hjr))
    rw [infractionOf, htop]
    rfl
  | star mem none =>
    have hnil : types.filter (·.role = .primary) = [] :=
      List.filter_eq_nil_iff.mpr fun j hj h => none j hj (of_decide_eq_true h)
    rw [infractionOf, hnil, topOf?_nil, Option.getD_none, if_pos mem]
  | absent all =>
    have hnil : types.filter (·.role = .primary) = [] :=
      List.filter_eq_nil_iff.mpr fun j hj h => by rw [all j hj] at h; cases h
    have hstar : .superstar ∉ types := fun h => by cases all _ h
    rw [infractionOf, hnil, topOf?_nil, Option.getD_none, if_neg hstar]

/-- A sanction that decides what the list decides has the decision of the closed form. -/
theorem Decides.decision_eq {entries : List Sanction} {s : Sanction} (h : Decides entries s) :
    s.decision = Decision.ofEntries entries := by
  unfold Decision.ofEntries Sanction.decision
  rw [infractionOf_eq h.infraction]
  have hduration : (if s.infraction = .none then none else some s.duration)
      = if s.infraction = .none then none
        else some (longestOf (durationsOf s.infraction entries)) := by
    by_cases hi : s.infraction = .none
    · rw [if_pos hi, if_pos hi]
    · rw [if_neg hi, if_neg hi, longestOf_eq (h.duration hi)]
  have hrename : s.superstar.map (·.duration)
      = if renamesOf s.infraction.role entries = [] then none
        else some (longestOf (renamesOf s.infraction.role entries)) := by
    cases hs : s.superstar with
    | none =>
      have hr : renamesOf s.infraction.role entries = [] := by simpa [hs, IsRename] using h.rename
      rw [if_pos hr, Option.map_none]
    | some star =>
      have hr : IsLongest (renamesOf s.infraction.role entries) star.duration := by
        simpa [hs, IsRename] using h.rename
      rw [if_neg (List.ne_nil_of_mem hr.1), longestOf_eq hr, Option.map_some]
  rw [hduration, hrename]

/-! ## Which durations occur -/

section Occurrence

variable {i : Infraction} {r : Infraction.Role} {l m : List Sanction} {d : Option Number}

theorem mem_durationsOf :
    d ∈ durationsOf i l ↔ ∃ s ∈ l, s.infraction = i ∧ s.duration = d := by
  simp [durationsOf, and_assoc]

theorem mem_renamesOf :
    d ∈ renamesOf r l ↔
      (∃ s ∈ l, ∃ star, s.superstar = some star ∧ star.duration = d) ∨
        (r = .primary ∧ d ∈ durationsOf .superstar l) := by
  unfold renamesOf
  split <;> simp [*]

theorem durationsOf_append : durationsOf i (l ++ m) = durationsOf i l ++ durationsOf i m := by
  simp [durationsOf]

theorem durationsOf_eq_nil (h : ∀ s ∈ l, s.infraction ≠ i) : durationsOf i l = [] := by
  simpa [durationsOf] using h

theorem not_nan_of_mem_durationsOf (hl : ∀ s ∈ l, s.ValidDurations) (hd : d ∈ durationsOf i l) :
    d ≠ some .nan := by
  obtain ⟨s, hs, -, rfl⟩ := mem_durationsOf.mp hd
  exact fun h => ((hl s hs).infraction .nan h).ne_nan rfl

theorem not_nan_of_mem_renamesOf (hl : ∀ s ∈ l, s.ValidDurations) (hd : d ∈ renamesOf r l) :
    d ≠ some .nan := by
  rcases mem_renamesOf.mp hd with ⟨s, hs, star, hstar, rfl⟩ | ⟨-, hd⟩
  · exact fun h => ((hl s hs).rename star hstar .nan h).ne_nan rfl
  · exact not_nan_of_mem_durationsOf hl hd

end Occurrence

theorem IsRename.congr {ds es : List (Option Number)} {x : Option Superstar} (h : IsRename ds x)
    (hmem : ∀ e, e ∈ ds ↔ e ∈ es) : IsRename es x := by
  cases x with
  | none =>
    have hds : ds = [] := h
    subst hds
    exact List.eq_nil_iff_forall_not_mem.mpr fun e he => List.not_mem_nil ((hmem e).mpr he)
  | some star => exact IsLongest.congr h hmem

/-- The renames of two collections together are the two renames combined. -/
theorem IsRename.append {ds es : List (Option Number)} {x y : Option Superstar}
    (hx : IsRename ds x) (hy : IsRename es y) (hds : ∀ d ∈ ds, d ≠ some .nan)
    (hes : ∀ e ∈ es, e ≠ some .nan) : IsRename (ds ++ es) (Superstar.combine? x y) := by
  cases x with
  | none =>
    have hnil : ds = [] := hx
    subst hnil
    exact hy
  | some star =>
    cases y with
    | none =>
      have hnil : es = [] := hy
      subst hnil
      rw [List.append_nil]
      exact hx
    | some star' =>
      have hx' : IsLongest ds star.duration := hx
      have hy' : IsLongest es star'.duration := hy
      exact hx'.append hy' (hds _ hx'.1) (hes _ hy'.1)

/-! ## What the infractions of a list say about each of them -/

namespace IsDecided

variable {types : List Infraction} {i j : Infraction}

theorem of_absent (h : IsDecided types i) (hi : i.role = .absent) : ∀ j ∈ types, j = .none := by
  cases h with
  | primary role => rw [role] at hi; cases hi
  | star => cases hi
  | absent all => exact all

theorem of_star (h : IsDecided types i) (hi : i.role = .star) :
    .superstar ∈ types ∧ ∀ j ∈ types, j.role ≠ .primary := by
  cases h with
  | primary role => rw [role] at hi; cases hi
  | star mem none => exact ⟨mem, none⟩
  | absent => cases hi

theorem of_primary (h : IsDecided types i) (hi : i.role = .primary) :
    i ∈ types ∧ ∀ j ∈ types, j.role = .primary → i.rank ≤ j.rank := by
  cases h with
  | primary _ mem least => exact ⟨mem, least⟩
  | star => cases hi
  | absent => cases hi

theorem mem (h : IsDecided types i) (hi : i ≠ .none) : i ∈ types := by
  cases h with
  | primary _ mem => exact mem
  | star mem => exact mem
  | absent => exact absurd rfl hi

theorem congr {others : List Infraction} (h : IsDecided types i)
    (hmem : ∀ j, j ∈ types ↔ j ∈ others) : IsDecided others i := by
  cases h with
  | primary role mem least =>
    exact .primary role ((hmem _).mp mem) fun j hj => least j ((hmem j).mpr hj)
  | star mem none => exact .star ((hmem _).mp mem) fun j hj => none j ((hmem j).mpr hj)
  | absent all => exact .absent fun j hj => all j ((hmem j).mpr hj)

/-- Absent infractions, and superstars beside a primary one, decide nothing. -/
theorem extend {others : List Infraction} (h : IsDecided types i)
    (hothers : ∀ j ∈ others, j = .none ∨ j = .superstar ∧ i.role = .primary) :
    IsDecided (others ++ types) i := by
  cases h with
  | primary role mem least =>
    refine .primary role (List.mem_append_right _ mem) fun j hj hjr => ?_
    rcases List.mem_append.mp hj with hj | hj
    · rcases hothers j hj with rfl | ⟨rfl, -⟩ <;> cases hjr
    · exact least j hj hjr
  | star mem none =>
    refine .star (List.mem_append_right _ mem) fun j hj => ?_
    rcases List.mem_append.mp hj with hj | hj
    · rcases hothers j hj with rfl | ⟨-, hrole⟩
      · decide
      · cases hrole
    · exact none j hj
  | absent all =>
    refine .absent fun j hj => ?_
    rcases List.mem_append.mp hj with hj | hj
    · rcases hothers j hj with rfl | ⟨-, hrole⟩
      · rfl
      · cases hrole
    · exact all j hj

/-- Of two superstars, or of two primary infractions, the more severe one decides. -/
theorem alike {others : List Infraction} (hi : IsDecided types i) (hj : IsDecided others j)
    (hij : i.role = j.role) (hpresent : i.role ≠ .absent) :
    IsDecided (types ++ others) (Infraction.mostSevere i j) := by
  cases hi with
  | primary role mem least =>
    obtain ⟨mem', least'⟩ := hj.of_primary (hij ▸ role)
    rcases Infraction.mostSevere_spec i j with ⟨h, hle⟩ | ⟨h, hle⟩
    · rw [h]
      refine .primary role (List.mem_append_left _ mem) fun k hk hkr => ?_
      rcases List.mem_append.mp hk with hk | hk
      · exact least k hk hkr
      · exact Nat.le_trans hle (least' k hk hkr)
    · rw [h]
      refine .primary (hij ▸ role) (List.mem_append_right _ mem') fun k hk hkr => ?_
      rcases List.mem_append.mp hk with hk | hk
      · exact Nat.le_trans hle (least k hk hkr)
      · exact least' k hk hkr
  | star mem none =>
    have hjstar : j = .superstar := Infraction.role_eq_star.mp hij.symm
    subst hjstar
    refine .star (List.mem_append_left _ mem) fun k hk => ?_
    rcases List.mem_append.mp hk with hk | hk
    · exact none k hk
    · exact (hj.of_star rfl).2 k hk
  | absent => exact absurd rfl hpresent

end IsDecided

/-! ## The renames of two collections together -/

theorem mem_renamesOf_append {r : Infraction.Role} {l m : List Sanction} (d : Option Number) :
    d ∈ renamesOf r l ++ renamesOf r m ↔ d ∈ renamesOf r (l ++ m) := by
  simp only [List.mem_append, mem_renamesOf, durationsOf_append]
  grind

theorem IsRename.append_renamesOf {r : Infraction.Role} {l m : List Sanction}
    {x y : Option Superstar} (hx : IsRename (renamesOf r l) x) (hy : IsRename (renamesOf r m) y)
    (hl : ∀ s ∈ l, s.ValidDurations) (hm : ∀ s ∈ m, s.ValidDurations) :
    IsRename (renamesOf r (l ++ m)) (Superstar.combine? x y) :=
  (hx.append hy (fun _ => not_nan_of_mem_renamesOf hl) fun _ => not_nan_of_mem_renamesOf hm).congr
    mem_renamesOf_append

/-- Where nothing is a superstar, the renames are those that the sanctions carry. -/
theorem IsRename.of_no_star {r q : Infraction.Role} {l : List Sanction} {x : Option Superstar}
    (h : IsRename (renamesOf r l) x) (hl : ∀ s ∈ l, s.infraction ≠ .superstar) :
    IsRename (renamesOf q l) x := by
  refine h.congr fun d => ?_
  rw [mem_renamesOf, mem_renamesOf, durationsOf_eq_nil hl]
  simp

/-! ## One combination -/

namespace Decides

variable {l m : List Sanction} {a b t : Sanction}

theorem congr (h : Decides l t) (hmem : ∀ s, s ∈ l ↔ s ∈ m) : Decides m t where
  infraction := h.infraction.congr fun i => by simp [hmem]
  duration := fun hi => (h.duration hi).congr fun d => by simp [mem_durationsOf, hmem]
  rename := h.rename.congr fun d => by simp [mem_renamesOf, mem_durationsOf, hmem]

/-- A superstar with what it carries, as the rename that it becomes beside another infraction. -/
theorem folded (ha : Decides l a) (hrole : a.infraction.role = .star)
    (hl : ∀ s ∈ l, s.ValidDurations) :
    IsRename (renamesOf .primary l) (Superstar.combine? (some a.asSuperstar) a.superstar) := by
  have hstar : a.infraction = .superstar := Infraction.role_eq_star.mp hrole
  have hd : IsLongest (durationsOf .superstar l) a.duration := by
    rw [← hstar]
    exact ha.duration (by rw [hstar]; decide)
  have hfold : IsRename (durationsOf .superstar l) (some a.asSuperstar) := hd
  refine (hfold.append ha.rename (fun _ => not_nan_of_mem_durationsOf hl)
    fun _ => not_nan_of_mem_renamesOf hl).congr fun d => ?_
  rw [List.mem_append, mem_renamesOf, mem_renamesOf, hrole]
  grind

/-- Sanctions without an infraction, and superstars beside a primary infraction, change neither the
infraction nor its duration. -/
theorem extend (hb : Decides m b)
    (hl : ∀ s ∈ l, s.infraction = .none ∨
      s.infraction = .superstar ∧ b.infraction.role = .primary)
    (hi : t.infraction = b.infraction) (hd : t.duration = b.duration)
    (hr : IsRename (renamesOf b.infraction.role (l ++ m)) t.superstar) : Decides (l ++ m) t where
  infraction := by
    rw [hi, List.map_append]
    refine hb.infraction.extend fun j hj => ?_
    obtain ⟨s, hs, rfl⟩ := List.mem_map.mp hj
    exact hl s hs
  duration := fun ht => by
    rw [hi] at ht
    have hnil : durationsOf b.infraction l = [] := by
      refine durationsOf_eq_nil fun s hs h => ?_
      rcases hl s hs with h' | ⟨h', hrole⟩
      · exact ht (h.symm.trans h')
      · rw [← h, h'] at hrole
        cases hrole
    rw [hi, hd, durationsOf_append, hnil, List.nil_append]
    exact hb.duration ht
  rename := by rw [hi]; exact hr

/-- The durations of a less severe collection do not count. -/
theorem durationsOf_eq_nil_of_rank_lt {i : Infraction} (hb : Decides m b)
    (hrole : b.infraction.role = .primary) (hi : i.role = .primary)
    (hlt : i.rank < b.infraction.rank) : durationsOf i m = [] := by
  refine durationsOf_eq_nil fun s hs h => ?_
  have hle := (hb.infraction.of_primary hrole).2 s.infraction (List.mem_map.mpr ⟨s, hs, rfl⟩)
  rw [h] at hle
  exact absurd (hle hi) (by omega)

/-- The duration of the more severe of two superstars, or of two primary infractions. -/
theorem alike_duration (ha : Decides l a) (hb : Decides m b)
    (hrole : a.infraction.role = b.infraction.role) (hpresent : a.infraction.role ≠ .absent)
    (hl : ∀ s ∈ l, s.ValidDurations) (hm : ∀ s ∈ m, s.ValidDurations) :
    IsLongest (durationsOf (Infraction.mostSevere a.infraction b.infraction) (l ++ m))
      (Sanction.severestDuration a b) := by
  have ha0 : a.infraction ≠ .none := fun h => hpresent (Infraction.role_eq_absent.mpr h)
  have hb0 : b.infraction ≠ .none :=
    fun h => hpresent (hrole.trans (Infraction.role_eq_absent.mpr h))
  unfold Sanction.severestDuration
  by_cases heq : a.infraction = b.infraction
  · have hda := ha.duration ha0
    have hdb := hb.duration hb0
    rw [← heq] at hdb
    have hsame : Infraction.mostSevere a.infraction b.infraction = a.infraction := by
      simp [Infraction.mostSevere, ← heq]
    rw [if_pos heq, hsame, durationsOf_append]
    exact hda.append hdb (not_nan_of_mem_durationsOf hl hda.1)
      (not_nan_of_mem_durationsOf hm hdb.1)
  · have hprimary : a.infraction.role = .primary := by
      cases hr : a.infraction.role with
      | absent => exact absurd hr hpresent
      | star =>
        have hb' := Infraction.role_eq_star.mp (hrole.symm.trans hr)
        exact absurd ((Infraction.role_eq_star.mp hr).trans hb'.symm) heq
      | primary => rfl
    have hne : a.infraction.rank ≠ b.infraction.rank := fun h => heq (Infraction.rank_injective h)
    rw [if_neg heq, durationsOf_append]
    rcases Infraction.mostSevere_spec a.infraction b.infraction with ⟨h, hle⟩ | ⟨h, hle⟩
    · rw [h, if_pos rfl, hb.durationsOf_eq_nil_of_rank_lt (hrole ▸ hprimary) hprimary (by omega),
        List.append_nil]
      exact ha.duration ha0
    · rw [h, if_neg (Ne.symm heq),
        ha.durationsOf_eq_nil_of_rank_lt hprimary (hrole ▸ hprimary) (by omega), List.nil_append]
      exact hb.duration hb0

/-- A single sanction decides for itself. -/
theorem single (s : Sanction) : Decides [s] s where
  infraction := by
    cases hr : s.infraction.role with
    | absent =>
      rw [Infraction.role_eq_absent.mp hr]
      exact .absent (by simp [Infraction.role_eq_absent.mp hr])
    | star =>
      rw [Infraction.role_eq_star.mp hr]
      exact .star (by simp [Infraction.role_eq_star.mp hr]) (by simp [hr])
    | primary => exact .primary hr (by simp) (by simp)
  duration := fun _ => by
    have h : durationsOf s.infraction [s] = [s.duration] := by simp [durationsOf]
    rw [h]
    exact isLongest_singleton s.duration
  rename := by
    have hnil : (if s.infraction.role = .primary then durationsOf .superstar [s] else []) = [] := by
      split
      · rename_i hr
        exact durationsOf_eq_nil (by simpa using (Infraction.role_eq_primary.mp hr).2)
      · rfl
    unfold renamesOf
    rw [hnil, List.append_nil]
    cases hs : s.superstar with
    | none => simp [IsRename, hs]
    | some star => simpa [IsRename, hs] using isLongest_singleton star.duration

theorem combine_absent_left (ha : Decides l a) (hb : Decides m b)
    (hl : ∀ s ∈ l, s.ValidDurations) (hm : ∀ s ∈ m, s.ValidDurations)
    (hra : a.infraction.role = .absent) : Decides (l ++ m) (a.combine b) := by
  have hnone : ∀ s ∈ l, s.infraction = .none :=
    fun s hs => ha.infraction.of_absent hra _ (List.mem_map_of_mem hs)
  have hrename : IsRename (renamesOf b.infraction.role l) a.superstar :=
    ha.rename.of_no_star fun s hs h => by rw [hnone s hs] at h; cases h
  rw [Sanction.combine_absent_left hra]
  exact hb.extend (fun s hs => Or.inl (hnone s hs)) rfl rfl
    (hrename.append_renamesOf hb.rename hl hm)

theorem combine_absent_right (ha : Decides l a) (hb : Decides m b)
    (hl : ∀ s ∈ l, s.ValidDurations) (hm : ∀ s ∈ m, s.ValidDurations)
    (hra : a.infraction.role ≠ .absent) (hrb : b.infraction.role = .absent) :
    Decides (l ++ m) (a.combine b) := by
  have hnone : ∀ s ∈ m, s.infraction = .none :=
    fun s hs => hb.infraction.of_absent hrb _ (List.mem_map_of_mem hs)
  have hrename : IsRename (renamesOf a.infraction.role m) b.superstar :=
    hb.rename.of_no_star fun s hs h => by rw [hnone s hs] at h; cases h
  have hboth : IsRename (renamesOf a.infraction.role (m ++ l))
      (Superstar.combine? a.superstar b.superstar) :=
    (ha.rename.append_renamesOf hrename hl hm).congr fun d => by
      simp [← mem_renamesOf_append, or_comm]
  rw [Sanction.combine_absent_right hra hrb]
  refine Decides.congr (l := m ++ l) ?_ fun s => by simp [or_comm]
  exact ha.extend (fun s hs => Or.inl (hnone s hs)) rfl rfl hboth

/-- A superstar beside a primary infraction, whichever of them comes first. -/
theorem beside_primary (ha : Decides l a) (hb : Decides m b)
    (hl : ∀ s ∈ l, s.ValidDurations) (hm : ∀ s ∈ m, s.ValidDurations)
    (hra : a.infraction.role = .star) (hrb : b.infraction.role = .primary)
    (hi : t.infraction = b.infraction) (hd : t.duration = b.duration)
    (ht : t.superstar = Sanction.foldSuperstar a b) : Decides (l ++ m) t := by
  have hno : ∀ s ∈ l, s.infraction = .none ∨
      s.infraction = .superstar ∧ b.infraction.role = .primary := by
    intro s hs
    have hs' := (ha.infraction.of_star hra).2 _ (List.mem_map_of_mem hs)
    cases hr : s.infraction.role with
    | absent => exact Or.inl (Infraction.role_eq_absent.mp hr)
    | star => exact Or.inr ⟨Infraction.role_eq_star.mp hr, hrb⟩
    | primary => exact absurd hr hs'
  refine hb.extend hno hi hd ?_
  have hrename := hb.rename
  rw [hrb] at hrename
  rw [ht, hrb]
  exact (ha.folded hra hl).append_renamesOf hrename hl hm

theorem combine_alike (ha : Decides l a) (hb : Decides m b)
    (hl : ∀ s ∈ l, s.ValidDurations) (hm : ∀ s ∈ m, s.ValidDurations)
    (hrole : a.infraction.role = b.infraction.role) (hpresent : a.infraction.role ≠ .absent) :
    Decides (l ++ m) (a.combine b) := by
  have hsame : (Infraction.mostSevere a.infraction b.infraction).role = a.infraction.role := by
    rcases Infraction.mostSevere_spec a.infraction b.infraction with ⟨h, -⟩ | ⟨h, -⟩
    · rw [h]
    · rw [h, hrole]
  have hrename := hb.rename
  rw [← hrole] at hrename
  rw [Sanction.combine_alike hrole hpresent]
  refine ⟨?_, fun _ => alike_duration ha hb hrole hpresent hl hm, ?_⟩
  · rw [List.map_append]
    exact ha.infraction.alike hb.infraction hrole hpresent
  · rw [hsame]
    exact ha.rename.append_renamesOf hrename hl hm

/-- Two sanctions combined decide what their two collections decide together. -/
theorem combine (ha : Decides l a) (hb : Decides m b) (hl : ∀ s ∈ l, s.ValidDurations)
    (hm : ∀ s ∈ m, s.ValidDurations) : Decides (l ++ m) (a.combine b) := by
  by_cases hra : a.infraction.role = .absent
  · exact combine_absent_left ha hb hl hm hra
  by_cases hrb : b.infraction.role = .absent
  · exact combine_absent_right ha hb hl hm hra hrb
  by_cases hrole : a.infraction.role = b.infraction.role
  · exact combine_alike ha hb hl hm hrole hra
  -- One of them is a superstar and the other one is primary.
  cases ha' : a.infraction.role with
  | absent => exact absurd ha' hra
  | star =>
    have hb' : b.infraction.role = .primary := by
      cases hr : b.infraction.role <;> simp_all
    rw [Sanction.combine_star_left ha' hb']
    exact beside_primary ha hb hl hm ha' hb' rfl rfl rfl
  | primary =>
    have hb' : b.infraction.role = .star := by
      cases hr : b.infraction.role <;> simp_all
    rw [Sanction.combine_star_right ha' hb']
    refine Decides.congr (l := m ++ l) ?_ fun s => by simp [or_comm]
    exact beside_primary hb ha hm hl hb' ha' rfl rfl rfl

end Decides

/-! ## Any combination -/

namespace Combination

theorem decides (c : Combination) (hc : ∀ s ∈ c.entries, s.ValidDurations) :
    Decides c.entries c.result := by
  induction c with
  | single s => exact Decides.single s
  | both first second ih1 ih2 =>
    have h1 : ∀ s ∈ first.entries, s.ValidDurations :=
      fun s hs => hc s (List.mem_append_left _ hs)
    have h2 : ∀ s ∈ second.entries, s.ValidDurations :=
      fun s hs => hc s (List.mem_append_right _ hs)
    exact (ih1 h1).combine (ih2 h2) h1 h2

/-- **Any order, any bracketing, any repetitions.**  Whatever way all the sanctions of a list are
combined, the result decides what the closed form says. -/
theorem result_decision (entries : List Sanction) (hvalid : ∀ s ∈ entries, s.ValidDurations)
    (c : Combination) (hc : ∀ s, s ∈ c.entries ↔ s ∈ entries) :
    c.result.decision = Decision.ofEntries entries :=
  ((c.decides fun s hs => hvalid s ((hc s).mp hs)).congr hc).decision_eq

/-- A note and a superstar, which occurs twice: the note stays, although a superstar ranks above it,
and the rename lasts as long as the longer of the two that come together. -/
theorem result_decision_note_beside_superstar :
    let star : Sanction := ⟨.superstar, [], some 3600, [], [], none⟩
    let note : Sanction := ⟨.note, [], none, [], [], some ⟨[], some 60⟩⟩
    let c := both (both (single star) (single note)) (single star)
    (∀ s ∈ [note, star], s.ValidDurations) ∧ (∀ s, s ∈ c.entries ↔ s ∈ [note, star]) ∧
      c.result.decision = Decision.ofEntries [note, star] ∧
      Decision.ofEntries [note, star] = ⟨.note, some none, some (some 3600)⟩ := by
  intro star note c
  have hnonneg (n : Nat) : (Number.finite n).NonNegative := ⟨n, rfl, Rat.natCast_nonneg⟩
  have hvalid : ∀ s ∈ [note, star], s.ValidDurations := by
    intro s hs
    rcases List.mem_cons.mp hs with rfl | hs
    · refine ⟨fun n hn => (by cases hn), fun x hx n hn => ?_⟩
      cases hx
      cases hn
      exact hnonneg 60
    · rw [List.mem_singleton.mp hs]
      refine ⟨fun n hn => ?_, fun x hx => by cases hx⟩
      cases hn
      exact hnonneg 3600
  have hc : ∀ s, s ∈ c.entries ↔ s ∈ [note, star] := by
    intro s
    simp only [c, entries, List.cons_append, List.nil_append, List.mem_cons, List.not_mem_nil]
    grind
  exact ⟨hvalid, hc, result_decision [note, star] hvalid c hc, by decide +kernel⟩

end Combination

end ChatModeration
