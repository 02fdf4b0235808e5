/-
ChatModeration.Proofs.FoldedMessages — what many messages become.

Messages are merged one after the other, and equal messages become one only
when they meet.  As soon as there have been two different ones, what has been
merged is a list of bullet points with blank lines, which no further message is
equal to: from then on every message adds a bullet point, also one that has been
there before.  `collapsed` says which messages are left, `mergeAll_eq` that they
are what is listed.

The main statement is `one_point_each_iff`: each text has one bullet point just
when a text is repeated, if at all, at the beginning.
-/
import ChatModeration.Proofs.ReducedTexts
import Mathlib.Data.List.Induction

namespace ChatModeration

namespace Bullets

/-! ## § Lists of messages -/

/-- Bullet points with blank lines between them. -/
def points (messages : List Text) : Text := Text.join [0x0A, 0x0A] (messages.map mark)

/-- A single message as it is, and several as bullet points. -/
def listing : List Text → Text
  | [] => []
  | [m] => m
  | several => points several

/-- The messages with the ones that repeat the first at the beginning taken for one. -/
def collapsed : List Text → List Text
  | [] => []
  | first :: later => first :: later.dropWhile (· = first)

/-- No bullet point stands in the message after a blank line. -/
def NoPointWithin (m : Text) : Prop := ¬ [0x0A, 0x0A, bullet] <:+: m

/-- Bullet points that come after another one. -/
def furtherPoints (messages : List Text) : Text := messages.flatMap fun m => 0x0A :: 0x0A :: mark m

variable {messages : List Text} {m : Text}

@[simp] theorem furtherPoints_nil : furtherPoints [] = [] := rfl

theorem points_cons (m : Text) (later : List Text) :
    points (m :: later) = mark m ++ furtherPoints later := by
  induction later generalizing m with
  | nil => simp [points, furtherPoints, Text.join]
  | cons next more ih =>
    have hnext := ih next
    simp only [points, Text.join, List.map_cons] at hnext
    simp only [points, Text.join, List.map_cons, List.intercalate_cons_cons, hnext]
    simp [furtherPoints]

theorem points_concat (hne : messages ≠ []) (m : Text) :
    points (messages ++ [m]) = points messages ++ 0x0A :: 0x0A :: mark m := by
  obtain ⟨first, later, rfl⟩ := List.exists_cons_of_ne_nil hne
  rw [List.cons_append, points_cons, points_cons]
  simp [furtherPoints]

theorem mark_points (hne : messages ≠ []) : mark (points messages) = points messages := by
  obtain ⟨first, later, rfl⟩ := List.exists_cons_of_ne_nil hne
  rw [points_cons, mark_mark_append]

theorem mark_eq_bullet_cons (m : Text) : ∃ rest, mark m = bullet :: rest := by
  unfold mark
  split
  · next h => exact List.head?_eq_some_iff.mp h
  · exact ⟨_, rfl⟩

/-- The second bullet point comes after a blank line. -/
theorem point_within (first second : Text) (more : List Text) :
    [0x0A, 0x0A, bullet] <:+: points (first :: second :: more) := by
  obtain ⟨rest, hrest⟩ := mark_eq_bullet_cons second
  refine ⟨mark first, rest ++ furtherPoints more, ?_⟩
  rw [points_cons]
  simp [furtherPoints, hrest]

/-! ## § One more message -/

theorem collapsed_concat (messages : List Text) (m : Text) :
    collapsed (messages ++ [m]) =
      if collapsed messages = [m] then [m] else collapsed messages ++ [m] := by
  cases messages with
  | nil => rfl
  | cons first later =>
    rw [List.cons_append, collapsed, collapsed, List.dropWhile_append]
    cases hrest : later.dropWhile (· = first) with
    | nil =>
      by_cases hm : m = first
      · simp [hm]
      · simp [hm, Ne.symm hm]
    | cons second more => simp

theorem mem_collapsed : m ∈ collapsed messages ↔ m ∈ messages := by
  induction messages using List.reverseRecOn with
  | nil => exact Iff.rfl
  | append_singleton messages n ih =>
    rw [collapsed_concat, List.mem_append, ← ih]
    split
    · next h => simp [h]
    · exact List.mem_append

/-- One more message is put beside what is listed, unless it is all that is listed. -/
theorem merge_listing (hm : m ≠ []) (hpoint : NoPointWithin m) (hne : ∀ n ∈ messages, n ≠ []) :
    merge (listing messages) m = listing (if messages = [m] then [m] else messages ++ [m]) := by
  match messages with
  | [] => simp [listing]
  | [n] =>
    by_cases hnm : n = m
    · simp [listing, hnm]
    · have hnot : ¬ ([n] : List Text) = [m] := fun h => hnm (List.singleton_inj.mp h)
      rw [if_neg hnot]
      show merge n m = points ([n] ++ [m])
      rw [merge_of_ne (hne n List.mem_cons_self) hm hnm, points_concat (List.cons_ne_nil n [])]
      simp [points_cons, furtherPoints]
  | first :: second :: more =>
    have hnot : ¬ first :: second :: more = [m] := by simp
    rw [if_neg hnot]
    show merge (points (first :: second :: more)) m = points (first :: second :: more ++ [m])
    -- what is listed has a bullet point after a blank line, and the message has none
    have hwithin := point_within first second more
    have hother : points (first :: second :: more) ≠ m := fun h => hpoint (h ▸ hwithin)
    have hlist : points (first :: second :: more) ≠ [] := by
      intro h
      rw [h] at hwithin
      exact absurd (List.infix_nil.mp hwithin) (List.cons_ne_nil _ _)
    rw [merge_of_ne hlist hm hother, mark_points (List.cons_ne_nil _ _),
      points_concat (List.cons_ne_nil _ _)]

/-- **Merged messages in closed form**: those that are not empty are listed, with the repetitions at
the beginning taken for one. -/
theorem mergeAll_eq (h : ∀ m ∈ messages, NoPointWithin m) :
    mergeAll messages = listing (collapsed (messages.filter (· ≠ []))) := by
  induction messages using List.reverseRecOn with
  | nil => rfl
  | append_singleton messages m ih =>
    obtain ⟨hmessages, hm⟩ := List.forall_mem_append.mp h
    rw [mergeAll_snoc, ih hmessages, List.filter_append]
    by_cases hempty : m = []
    · simp [hempty]
    · have hne : ∀ n ∈ collapsed (messages.filter (· ≠ [])), n ≠ [] := by
        intro n hn
        simpa using (List.mem_filter.mp (mem_collapsed.mp hn)).2
      have hkept : [m].filter (· ≠ []) = [m] := by simp [hempty]
      rw [merge_listing hempty (List.forall_mem_singleton.mp hm) hne, hkept, collapsed_concat]

/-- Where two texts are different, the list is one of bullet points. -/
theorem listing_of_ne {n : Text} (hm : m ∈ messages) (hn : n ∈ messages) (hne : m ≠ n) :
    listing messages = points messages := by
  match messages with
  | [] => cases hm
  | [only] =>
    rw [List.mem_singleton] at hm hn
    exact absurd (hm.trans hn.symm) hne
  | first :: second :: more => rfl

/-! ## § Reading the bullet points -/

/-- What stands before the first bullet, and what after it. -/
theorem append_bullet_inj {p q r s : Text} (hp : bullet ∉ p) (hq : bullet ∉ q)
    (h : p ++ bullet :: r = q ++ bullet :: s) : p = q ∧ r = s := by
  induction p generalizing q with
  | nil =>
    cases q with
    | nil => exact ⟨rfl, (List.cons.inj h).2⟩
    | cons u q =>
      obtain rfl := (List.cons.inj h).1
      exact absurd List.mem_cons_self hq
  | cons u p ih =>
    cases q with
    | nil =>
      obtain rfl := (List.cons.inj h).1
      exact absurd List.mem_cons_self hp
    | cons v q =>
      obtain ⟨rfl, hrest⟩ := List.cons.inj h
      obtain ⟨rfl, hafter⟩ := ih (fun hmem => hp (List.mem_cons_of_mem _ hmem))
        (fun hmem => hq (List.mem_cons_of_mem _ hmem)) hrest
      exact ⟨rfl, hafter⟩

/-- A text without bullets becomes a bullet point of its own. -/
theorem mark_of_no_bullet (h : bullet ∉ m) : mark m = bullet :: 0x20 :: m :=
  if_neg fun hhead => h (List.mem_of_mem_head? hhead)

theorem furtherPoints_cons (h : bullet ∉ m) (later : List Text) :
    furtherPoints (m :: later) = [0x0A, 0x0A] ++ bullet :: (0x20 :: (m ++ furtherPoints later)) := by
  rw [furtherPoints, List.flatMap_cons, mark_of_no_bullet h]
  rfl

/-- Texts without bullets can be read off, one after the other. -/
theorem furtherPoints_inj {a b : List Text} {n : Text} (ha : ∀ t ∈ m :: a, bullet ∉ t)
    (hb : ∀ t ∈ n :: b, bullet ∉ t) (h : m ++ furtherPoints a = n ++ furtherPoints b) :
    m :: a = n :: b := by
  induction a generalizing m n b with
  | nil =>
    obtain ⟨hm, -⟩ := List.forall_mem_cons.mp ha
    cases b with
    | nil => simpa using h
    | cons next more =>
      obtain ⟨-, hnext, -⟩ := List.forall_mem_cons.mp hb |>.imp_right List.forall_mem_cons.mp
      rw [furtherPoints_cons hnext, furtherPoints_nil, List.append_nil] at h
      exact absurd (h ▸ by simp) hm
  | cons second later ih =>
    obtain ⟨hm, hsecond⟩ := List.forall_mem_cons.mp ha
    obtain ⟨hn, hmore⟩ := List.forall_mem_cons.mp hb
    rw [furtherPoints_cons (List.forall_mem_cons.mp hsecond).1] at h
    cases b with
    | nil =>
      rw [furtherPoints_nil, List.append_nil] at h
      exact absurd (h ▸ by simp) hn
    | cons next more =>
      rw [furtherPoints_cons (List.forall_mem_cons.mp hmore).1, ← List.append_assoc,
        ← List.append_assoc] at h
      have hblank {t : Text} (ht : bullet ∉ t) : bullet ∉ t ++ [0x0A, 0x0A] := by
        simpa [bullet] using ht
      obtain ⟨hfirst, hafter⟩ := append_bullet_inj (hblank hm) (hblank hn) h
      rw [List.append_cancel_right hfirst, ih hsecond hmore (List.cons.inj hafter).2]

/-- Texts without bullets can be read off their bullet points. -/
theorem points_inj {a b : List Text} (ha : ∀ m ∈ a, bullet ∉ m) (hb : ∀ m ∈ b, bullet ∉ m)
    (h : points a = points b) : a = b := by
  have hnone (m : Text) (later : List Text) : points [] ≠ points (m :: later) := by
    obtain ⟨rest, hrest⟩ := mark_eq_bullet_cons m
    rw [points_cons, hrest]
    exact (List.cons_ne_nil _ _).symm
  match a, b with
  | [], [] => rfl
  | [], n :: more => exact absurd h (hnone n more)
  | m :: later, [] => exact absurd h.symm (hnone m later)
  | m :: later, n :: more =>
    rw [points_cons, points_cons, mark_of_no_bullet (List.forall_mem_cons.mp ha).1,
      mark_of_no_bullet (List.forall_mem_cons.mp hb).1] at h
    exact furtherPoints_inj ha hb (List.cons.inj (List.cons.inj h).2).2

end Bullets

/-! ## § The private text of a reduction -/

namespace ActionSet

/-- The private texts of sets, without the empty ones. -/
def dmTexts (sets : List ActionSet) : List Text :=
  ((sets.filterMap (·.sanction)).map (·.dmContent)).filter (· ≠ [])

/-- The private text is made of one bullet point for each text, in some order. -/
def OnePointEach (texts : List Text) (dm : Text) : Prop :=
  ∃ order : List Text, order.Nodup ∧ (∀ t, t ∈ order ↔ t ∈ texts) ∧ dm = Bullets.points order

variable {sets : List ActionSet} {texts : List Text}

theorem onePointEach_iff (hplain : ∀ t ∈ texts, Bullets.bullet ∉ t) :
    OnePointEach texts (Bullets.points (Bullets.collapsed texts)) ↔
      (Bullets.collapsed texts).Nodup := by
  constructor
  · rintro ⟨order, hnodup, hmem, hpoints⟩
    have hcollapsed : ∀ t ∈ Bullets.collapsed texts, Bullets.bullet ∉ t :=
      fun t ht => hplain t (Bullets.mem_collapsed.mp ht)
    have horder : ∀ t ∈ order, Bullets.bullet ∉ t := fun t ht => hplain t ((hmem t).mp ht)
    rwa [Bullets.points_inj hcollapsed horder hpoints]
  · intro hnodup
    exact ⟨_, hnodup, fun t => Bullets.mem_collapsed, rfl⟩

theorem exists_dmContent (hne : dmTexts sets ≠ []) :
    ∃ s, mergeAll sets = ofSanction s ∧
      s.dmContent = Bullets.mergeAll ((sets.filterMap (·.sanction)).map (·.dmContent)) := by
  cases hentries : sets.filterMap (·.sanction) with
  | nil => simp [dmTexts, hentries] at hne
  | cons first later =>
    have hg := (Sanction.gathers_single first).foldl later
    exact ⟨_, mergeAll_eq hentries, hg.dmContent⟩

/-- **One bullet point for each text.**  Let the private texts of sets be without bullets, and two
of them different.  The reduced text has a bullet point for each text, where only those that repeat
the first text at the beginning are taken for one.  So it is made of exactly one bullet point for
each text just when no text comes back after a different one. -/
theorem one_point_each_iff (hplain : ∀ t ∈ dmTexts sets, Bullets.bullet ∉ t)
    (hseveral : ∃ t ∈ dmTexts sets, ∃ other ∈ dmTexts sets, t ≠ other) :
    ∃ s, mergeAll sets = ofSanction s ∧
      s.dmContent = Bullets.points (Bullets.collapsed (dmTexts sets)) ∧
      (OnePointEach (dmTexts sets) s.dmContent ↔ (Bullets.collapsed (dmTexts sets)).Nodup) := by
  obtain ⟨t, ht, other, hother, hne⟩ := hseveral
  obtain ⟨s, hs, hdm⟩ := exists_dmContent (List.ne_nil_of_mem ht)
  have hpoint : ∀ m ∈ (sets.filterMap (·.sanction)).map (·.dmContent), Bullets.NoPointWithin m := by
    intro m hm hwithin
    have hmem : Bullets.bullet ∈ m := hwithin.subset (by simp)
    have hnonempty : m ≠ [] := List.ne_nil_of_mem hmem
    exact hplain m (List.mem_filter.mpr ⟨hm, by simpa using hnonempty⟩) hmem
  have hpoints : s.dmContent = Bullets.points (Bullets.collapsed (dmTexts sets)) := by
    rw [hdm, Bullets.mergeAll_eq hpoint]
    show Bullets.listing (Bullets.collapsed (dmTexts sets)) = _
    exact Bullets.listing_of_ne (Bullets.mem_collapsed.mpr ht) (Bullets.mem_collapsed.mpr hother) hne
  refine ⟨s, hs, hpoints, ?_⟩
  rw [hpoints]
  exact onePointEach_iff hplain

/-- A set that only sends a private text. -/
def telling (text : String) : ActionSet :=
  ofSanction { Sanction.blank with dmContent := Text.ofString text }

/-- A text that is repeated at the beginning has one bullet point. -/
theorem one_point_each_iff_repeated_first :
    let sets := [telling "no spam", empty, telling "no spam", telling "be kind"]
    ((∀ t ∈ dmTexts sets, Bullets.bullet ∉ t) ∧
      ∃ t ∈ dmTexts sets, ∃ other ∈ dmTexts sets, t ≠ other) ∧
      ∃ s, mergeAll sets = ofSanction s ∧ OnePointEach (dmTexts sets) s.dmContent ∧
        s.dmContent = Text.ofString "• no spam\n\n• be kind" := by
  intro sets
  have hplain : ∀ t ∈ dmTexts sets, Bullets.bullet ∉ t := by decide +kernel
  have hseveral : ∃ t ∈ dmTexts sets, ∃ other ∈ dmTexts sets, t ≠ other := by decide +kernel
  obtain ⟨s, hs, hpoints, honce⟩ := one_point_each_iff hplain hseveral
  refine ⟨⟨hplain, hseveral⟩, s, hs, honce.mpr (by decide +kernel), ?_⟩
  rw [hpoints]
  decide +kernel

/-- A text that comes back after a different one has a second bullet point. -/
theorem one_point_each_fails :
    let sets := [telling "no spam", telling "be kind", telling "no spam"]
    (∀ t ∈ dmTexts sets, Bullets.bullet ∉ t ∧ ¬ [0x0A, 0x0A] <:+: t) ∧
      (∃ t ∈ dmTexts sets, ∃ other ∈ dmTexts sets, t ≠ other) ∧
      ∃ s, mergeAll sets = ofSanction s ∧
        s.dmContent = Text.ofString "• no spam\n\n• be kind\n\n• no spam" ∧
        ¬ OnePointEach (dmTexts sets) s.dmContent := by
  intro sets
  have hplain : ∀ t ∈ dmTexts sets, Bullets.bullet ∉ t ∧ ¬ [0x0A, 0x0A] <:+: t := by
    decide +kernel
  have hseveral : ∃ t ∈ dmTexts sets, ∃ other ∈ dmTexts sets, t ≠ other := by decide +kernel
  have hpoints : Bullets.points (Bullets.collapsed (dmTexts sets)) =
      Text.ofString "• no spam\n\n• be kind\n\n• no spam" := by decide +kernel
  refine ⟨hplain, hseveral, { Sanction.blank with
    dmContent := Text.ofString "• no spam\n\n• be kind\n\n• no spam" }, by decide +kernel, rfl, ?_⟩
  show ¬ OnePointEach (dmTexts sets) (Text.ofString "• no spam\n\n• be kind\n\n• no spam")
  rw [← hpoints, onePointEach_iff fun t ht => (hplain t ht).1]
  decide +kernel

end ActionSet

end ChatModeration
