/-
ChatModeration.Proofs.LabelBoundaries — domains by their labels.

A filter covers a host that ends in its domain, and the text of a host does not
show where its labels end.  `covers_iff` says that the test on texts is one on
labels: a domain covers a host just when its labels are the last ones of the
host.  What a list reports is then said without any test on texts (`reportOf`),
and the hosts that it looks at are those of the links in the order in which
they first occur (`FirstOccurrences`).

The main statement is `label_boundaries`.
-/
import ChatModeration.Proofs.AsciiHosts
import ChatModeration.Proofs.PunctuatedLinks
import Mathlib.Data.List.Induction

namespace ChatModeration

/-! ## § Parts of a text -/

namespace Text

/-- What separates begins a new part. -/
theorem splitOn_append_cons (sep : CodeUnit → Bool) {u : CodeUnit} (hu : sep u = true) (a b : Text) :
    splitOn sep (a ++ u :: b) = splitOn sep a ++ splitOn sep b := by
  rcases List.eq_nil_or_concat (splitOn sep a) with hnil | ⟨init, last, ha⟩
  · exact absurd hnil (splitOn_ne_nil sep a)
  · rw [List.concat_eq_append] at ha
    have hb : splitOn sep (u :: b) = [] :: splitOn sep b := by simp [splitOn, hu]
    rw [splitOn_append ha hb, ha]
    simp

end Text

namespace Domain

/-! ## § Labels -/

/-- The labels of a name, which stand between its dots. -/
def labels (name : Text) : List Text := Text.splitOn (· == 0x2E) name

variable {d h : Text}

theorem labels_ne_nil (name : Text) : labels name ≠ [] := Text.splitOn_ne_nil _ name

theorem join_labels (name : Text) : Text.join [0x2E] (labels name) = name := Text.join_splitOn _ name

theorem labels_append_dot (front name : Text) :
    labels (front ++ 0x2E :: name) = labels front ++ labels name :=
  Text.splitOn_append_cons (· == 0x2E) rfl front name

theorem labels_inj (hlabels : labels d = labels h) : d = h := by
  rw [← join_labels d, hlabels, join_labels h]

/-- A domain covers a host just when its labels are the last ones of the host. -/
theorem covers_iff : covers d h = true ↔ labels d <:+ labels h := by
  rw [covers, Bool.or_eq_true, decide_eq_true_eq, List.isSuffixOf_iff_suffix]
  constructor
  · rintro (rfl | ⟨front, rfl⟩)
    · exact List.suffix_rfl
    · rw [labels_append_dot]
      exact List.suffix_append _ _
  · rintro ⟨front, hfront⟩
    cases front with
    | nil => exact .inl (labels_inj hfront).symm
    | cons first more =>
      -- the dot before the domain is the one that ends the label before it
      have hhost : h = Text.join [0x2E] (first :: more) ++ [0x2E] ++ d := by
        calc h = Text.join [0x2E] (labels h) := (join_labels h).symm
          _ = Text.join [0x2E] (first :: more ++ labels d) := by rw [hfront]
          _ = Text.join [0x2E] (first :: more) ++ [0x2E] ++ Text.join [0x2E] (labels d) :=
            Text.join_append _ (List.cons_ne_nil _ _) (labels_ne_nil d)
          _ = Text.join [0x2E] (first :: more) ++ [0x2E] ++ d := by rw [join_labels d]
      refine .inr ⟨Text.join [0x2E] (first :: more), ?_⟩
      rw [hhost, List.append_assoc, List.singleton_append]

/-! ## § Reports -/

/-- The hosts that end in the labels of a filter. -/
def hostsUnder (hosts : List Text) (f : Filter) : List Text :=
  hosts.filter fun host => labels f.content.toLower <:+ labels host

/-- The report of a filter with the hosts that end in its labels, if there are any. -/
def reportOf (hosts : List Text) (f : Filter) : Option TriggeredFilter :=
  if hostsUnder hosts f = [] then none else some ⟨f, (hostsUnder hosts f).map Value.text⟩

theorem trigger?_eq (hosts : List Text) (f : Filter) : trigger? hosts f = reportOf hosts f := by
  have hunder : hosts.filter (covers f.content.toLower) = hostsUnder hosts f := by
    refine List.filter_congr fun host _ => ?_
    rw [Bool.eq_iff_iff, covers_iff, decide_eq_true_eq]
  rw [trigger?, hunder, reportOf]
  cases hostsUnder hosts f with
  | nil => rfl
  | cons first more => rfl

/-- A filter is reported just when some host ends in its labels. -/
theorem isSome_reportOf {hosts : List Text} {f : Filter} :
    (reportOf hosts f).isSome ↔ ∃ host ∈ hosts, labels f.content.toLower <:+ labels host := by
  have hunder : hostsUnder hosts f ≠ [] ↔
      ∃ host ∈ hosts, labels f.content.toLower <:+ labels host := by
    simp [hostsUnder, List.filter_eq_nil_iff]
  rw [← hunder, reportOf]
  split <;> simp_all

/-! ## § The order of the hosts -/

/-- The members of a list, each once, in the order in which they first occur in it. -/
structure FirstOccurrences (all once : List Text) : Prop where
  nodup : once.Nodup
  mem_iff : ∀ t, t ∈ once ↔ t ∈ all
  inOrder : once.Pairwise fun a b => all.idxOf a < all.idxOf b

/-- One more text leaves the places of the others as they are. -/
theorem pairwise_idxOf_append {all once : List Text} (hmem : ∀ t ∈ once, t ∈ all)
    (horder : once.Pairwise fun a b => all.idxOf a < all.idxOf b) (t : Text) :
    once.Pairwise fun a b => (all ++ [t]).idxOf a < (all ++ [t]).idxOf b := by
  refine horder.imp_of_mem fun ha hb hlt => ?_
  rw [List.idxOf_append_of_mem (hmem _ ha), List.idxOf_append_of_mem (hmem _ hb)]
  exact hlt

theorem firstOccurrences_distinct (all : List Text) : FirstOccurrences all (distinct all) := by
  refine ⟨nodup_distinct all, fun t => mem_distinct, ?_⟩
  induction all using List.reverseRecOn with
  | nil => exact List.Pairwise.nil
  | append_singleton all t ih =>
    have hbefore := pairwise_idxOf_append (fun t => mem_distinct.mp) ih t
    rw [distinct_append_singleton]
    split
    · exact hbefore
    · next hnew =>
      rw [mem_distinct] at hnew
      refine List.pairwise_append.mpr ⟨hbefore, List.pairwise_singleton _ _, fun a ha b hb => ?_⟩
      obtain rfl := List.mem_singleton.mp hb
      have hmem : a ∈ all := mem_distinct.mp ha
      rw [List.idxOf_append_of_mem hmem, List.idxOf_append_of_notMem hnew]
      exact Nat.lt_add_right _ (List.idxOf_lt_length_iff.mpr hmem)

/-- Parts of a text that stand in it one after the other, without overlap. -/
inductive OneAfterAnother : List Text → Text → Prop where
  | nil (t : Text) : OneAfterAnother [] t
  | cons (before part : Text) {parts : List Text} {after : Text} (h : OneAfterAnother parts after) :
      OneAfterAnother (part :: parts) (before ++ part ++ after)

theorem OneAfterAnother.after {parts : List Text} {t : Text} (h : OneAfterAnother parts t)
    (u : CodeUnit) : OneAfterAnother parts (u :: t) := by
  cases h with
  | nil => exact .nil _
  | cons before part h => exact .cons (u :: before) part h

theorem linkAt?_ne_nil {t link : Text} (h : linkAt? t = some link) : link ≠ [] := by
  rw [linkAt?] at h
  split at h
  · cases h
  · split at h
    · cases h
    · next hne =>
      obtain rfl := Option.some.inj h
      exact List.append_ne_nil_of_right_ne_nil _ hne

/-- The links of a text stand in it from left to right. -/
theorem links_oneAfterAnother (t : Text) : OneAfterAnother (links t) t := by
  induction hlength : t.length using Nat.strongRecOn generalizing t with
  | _ n ih =>
    cases t with
    | nil => exact .nil []
    | cons u rest =>
      cases hlink : linkAt? (u :: rest) with
      | none =>
        have hlinks : links (u :: rest) = links rest := by
          rw [links, linksFrom, hlink]
          rfl
        rw [hlinks]
        exact (ih rest.length (by simp [← hlength]) rest rfl).after u
      | some link =>
        have hne := linkAt?_ne_nil hlink
        obtain ⟨after, hafter⟩ := isPrefix_of_linkAt? hlink
        have hpos : 0 < link.length := List.length_pos_iff.mpr hne
        rw [links_of_linkAt? hlink hne, ← hafter, List.drop_left]
        refine .cons [] link (ih after.length ?_ after rfl)
        rw [← hlength, ← hafter, List.length_append]
        omega

/-! ## § What a domain list reports -/

/-- Hosts are in small letters. -/
theorem toLower_of_mem_hostsOf {m : Incoming} {host : Text} (h : host ∈ hostsOf m) :
    host.toLower = host := by
  obtain ⟨link, -, hlink⟩ := List.mem_filterMap.mp (mem_hostsOf.mp h)
  obtain ⟨read, hread, rfl⟩ := Option.map_eq_some_iff.mp hlink
  exact Url.toLower_idem_of_host? hread

/-- **Label boundaries.**  After any batches, a domain list reports, in the order in which they were
added and once each, the filters whose labels, in small letters, are the last labels of some host;
each is reported as it is, with just these hosts.  The hosts are those of the links, in small
letters and each once, in the order in which they first occur: first the links of the text from
left to right, then those of the embeds. -/
theorem label_boundaries (batches : List (List Filter)) (ctx : Context) :
    let hosts := hostsOf ctx.toIncoming
    let found := (links ctx.content ++ embedLinks ctx.toIncoming).filterMap linkHost?
    (batches.foldl FilterList.add .domain).evaluate ctx =
        (.ok (batches.flatten.filterMap (reportOf hosts)), ctx) ∧
      (∀ f, (reportOf hosts f).isSome ↔
        ∃ host ∈ hosts, labels f.content.toLower <:+ labels host) ∧
      FirstOccurrences found hosts ∧ (∀ host ∈ hosts, host.toLower = host) ∧
      OneAfterAnother (links ctx.content) ctx.content := by
  intro hosts found
  refine ⟨?_, fun f => isSome_reportOf, firstOccurrences_distinct found,
    fun host => toLower_of_mem_hostsOf, links_oneAfterAnother ctx.content⟩
  have htrigger : trigger? hosts = reportOf hosts := funext (trigger?_eq hosts)
  rw [FilterList.foldl_add, ← htrigger]
  rfl

end Domain

end ChatModeration
