/-
ChatModeration.Proofs.LinkedHosts — where the links of a text are, and their hosts.

A link begins with a scheme, and goes on up to white space, an angle bracket or
a quote.  A scheme that follows white space and a word without a colon begins a
link whatever comes before it (`links_append`), and that link is followed by the
links of what it leaves (`links_scheme`).

The host of a web link whose authority is visible ASCII without a port and
without a user is the domain that the authority names: `Url.host?_scheme`.
-/
import ChatModeration.FilterList.Domain
import ChatModeration.Proofs.AsciiNames

namespace ChatModeration

theorem CodeUnit.isBlank_asciiLower (u : CodeUnit) : isBlank (asciiLower u) = isBlank u := by
  have hletter {v : CodeUnit} (hv : Url.isLetter v = true) : isBlank v = false :=
    Url.Domain.of_isLabelUnit (P := fun v => isBlank v = false) (by decide)
      (Url.Domain.isLabelUnit_of_isLetter hv)
  obtain hstays | ⟨hu, hlower, -⟩ := asciiLower_cases u
  · rw [hstays]
  · rw [hletter hu, hletter hlower]

namespace Domain

/-! ## § Schemes -/

/-- What a link in a text begins with. -/
def schemes : List Text := [Text.ofString "http://", Text.ofString "https://"]

variable {t rest name p scheme : Text} {n : Nat}

theorem startsWithWord_iff {word : Text} :
    startsWithWord word t = true ↔ ∃ name rest, t = name ++ rest ∧ name.asciiLower = word := by
  rw [startsWithWord, List.isPrefixOf_iff_prefix]
  constructor
  · intro hwithin
    have hlength : ((t.take word.length).map CodeUnit.asciiLower).length ≤ word.length := by
      rw [List.length_map]
      exact List.length_take_le _ _
    exact ⟨t.take word.length, t.drop word.length, (List.take_append_drop _ t).symm,
      (hwithin.eq_of_length_le hlength).symm⟩
  · rintro ⟨name, rest, rfl, rfl⟩
    rw [Text.length_asciiLower, List.take_left]
    exact List.prefix_rfl

theorem exists_of_schemeLength? (h : schemeLength? t = some n) :
    ∃ name rest, t = name ++ rest ∧ name.length = n ∧ name.asciiLower ∈ schemes := by
  have hstart {word : Text} (hword : word ∈ schemes) (hlength : word.length = n)
      (hstarts : startsWithWord word t = true) :
      ∃ name rest, t = name ++ rest ∧ name.length = n ∧ name.asciiLower ∈ schemes := by
    obtain ⟨name, rest, ht, hname⟩ := startsWithWord_iff.mp hstarts
    refine ⟨name, rest, ht, ?_, hname ▸ hword⟩
    rw [← Text.length_asciiLower, hname, hlength]
  rw [schemeLength?] at h
  split at h
  · next hhttp => exact hstart List.mem_cons_self (Option.some.inj h) hhttp
  · split at h
    · next hhttps =>
      exact hstart (List.mem_cons_of_mem _ List.mem_cons_self) (Option.some.inj h) hhttps
    · cases h

theorem schemeLength?_append (h : name.asciiLower ∈ schemes) (rest : Text) :
    schemeLength? (name ++ rest) = some name.length := by
  rw [schemeLength?, ← Text.length_asciiLower name]
  rcases List.mem_cons.mp h with hhttp | h
  · rw [if_pos (startsWithWord_iff.mpr ⟨name, rest, rfl, hhttp⟩), hhttp]
    rfl
  · have hhttps := List.mem_singleton.mp h
    have hnot : startsWithWord (Text.ofString "http://") (name ++ rest) = false := by
      have hlong : (Text.ofString "http://").length ≤ name.length := by
        rw [← Text.length_asciiLower name, hhttps]
        decide
      rw [startsWithWord, List.take_append_of_le_length hlong, List.map_take]
      change List.isPrefixOf _ (List.take _ name.asciiLower) = false
      rw [hhttps]
      decide
    rw [hnot, if_neg (by decide), if_pos (startsWithWord_iff.mpr ⟨name, rest, rfl, hhttps⟩), hhttps]
    rfl

theorem schemeLength?_of_mem (h : scheme ∈ schemes) (rest : Text) :
    schemeLength? (scheme ++ rest) = some scheme.length := by
  have hsmall : ∀ scheme ∈ schemes, scheme.asciiLower ∈ schemes := by decide
  exact schemeLength?_append (hsmall scheme h) rest

/-- No scheme goes on over white space. -/
theorem not_mem_of_scheme (hname : name.asciiLower ∈ schemes) {s : CodeUnit}
    (hs : CodeUnit.isBlank s = true) : s ∉ name := by
  have hplain : ∀ scheme ∈ schemes, scheme.any CodeUnit.isBlank = false := by decide
  intro hmem
  have hlower := List.any_eq_false.mp (hplain _ hname) _ (List.mem_map_of_mem hmem)
  rw [CodeUnit.isBlank_asciiLower] at hlower
  exact hlower hs

/-- White space ends the search for a scheme. -/
theorem schemeLength?_append_blank {s : CodeUnit} (hs : CodeUnit.isBlank s = true) (rest : Text) :
    schemeLength? (t ++ s :: rest) = schemeLength? t := by
  refine Option.ext fun n => ⟨fun h => ?_, fun h => ?_⟩
  · obtain ⟨name, after, ht, rfl, hname⟩ := exists_of_schemeLength? h
    have hwithin : name <+: t := by
      rcases List.append_eq_append_iff.mp ht with ⟨more, hmore, hrest⟩ | ⟨more, ht, -⟩
      · cases more with
        | nil => exact (List.append_nil t).symm.trans hmore.symm ▸ List.prefix_rfl
        | cons v more =>
          obtain ⟨rfl, -⟩ := List.cons.inj hrest
          exact absurd (by simp [hmore]) (not_mem_of_scheme hname hs)
      · exact ⟨more, ht.symm⟩
    obtain ⟨more, rfl⟩ := hwithin
    exact schemeLength?_append hname more
  · obtain ⟨name, after, rfl, rfl, hname⟩ := exists_of_schemeLength? h
    rw [List.append_assoc]
    exact schemeLength?_append hname _

theorem takeWhile_append_stop {s : CodeUnit} {q : CodeUnit → Bool} (hs : q s = false)
    (t rest : Text) : (t ++ s :: rest).takeWhile q = t.takeWhile q := by
  induction t with
  | nil => simp [hs]
  | cons u more ih => rw [List.cons_append, List.takeWhile_cons, List.takeWhile_cons, ih]

/-- White space ends a link. -/
theorem linkAt?_append_blank {s : CodeUnit} (hs : CodeUnit.isBlank s = true) (rest : Text) :
    linkAt? (t ++ s :: rest) = linkAt? t := by
  rw [linkAt?, linkAt?, schemeLength?_append_blank hs]
  cases h : schemeLength? t with
  | none => rfl
  | some n =>
    obtain ⟨name, after, rfl, rfl, -⟩ := exists_of_schemeLength? h
    have hout : inLink s = false := by simp [inLink, hs]
    simp only [List.append_assoc, List.drop_left, List.take_left,
      takeWhile_append_stop hout]

/-! ## § Where no link begins -/

theorem linksFrom_skip (n : Nat) (t : Text) : linksFrom n t = linksFrom 0 (t.drop n) := by
  induction t generalizing n with
  | nil => cases n <;> simp [linksFrom]
  | cons u rest ih =>
    cases n with
    | zero => rfl
    | succ n => exact ih n

theorem isPrefix_of_linkAt? {link : Text} (h : linkAt? t = some link) : link <+: t := by
  rw [linkAt?] at h
  split at h
  · cases h
  · next n hn =>
    have hwithin : t.take n ++ (t.drop n).takeWhile inLink <+: t := by
      conv_rhs => rw [← List.take_append_drop n t]
      exact (List.prefix_append_right_inj _).mpr (List.takeWhile_prefix _)
    split at h
    · cases h
    · exact Option.some.inj h ▸ hwithin

/-- The links before white space and those after it. -/
theorem links_append_blank {s : CodeUnit} (hs : CodeUnit.isBlank s = true) (t rest : Text) :
    links (t ++ s :: rest) = links t ++ links rest := by
  have hfrom (n : Nat) (hn : n ≤ t.length) :
      linksFrom n (t ++ s :: rest) = linksFrom n t ++ linksFrom 0 rest := by
    -- what is left to skip never reaches beyond the white space, as no link does
    induction t generalizing n with
    | nil =>
      obtain rfl := Nat.le_zero.mp hn
      have hnone : linkAt? (s :: rest) = none := linkAt?_append_blank (t := []) hs rest
      rw [List.nil_append, linksFrom, linksFrom, hnone]
      rfl
    | cons u more ih =>
      cases n with
      | succ n => exact ih n (Nat.le_of_succ_le_succ hn)
      | zero =>
        rw [List.cons_append, linksFrom, linksFrom, ← List.cons_append, linkAt?_append_blank hs]
        cases hlink : linkAt? (u :: more) with
        | none => exact ih 0 (Nat.zero_le _)
        | some link =>
          have hlength := (isPrefix_of_linkAt? hlink).length_le
          rw [List.length_cons] at hlength
          exact congrArg (link :: ·) (ih (link.length - 1) (by omega))
  exact hfrom 0 (Nat.zero_le _)

/-- Where no link begins the search goes on. -/
theorem linksFrom_append_of_none
    (h : ∀ u part, u :: part <:+ p → linkAt? (u :: part ++ rest) = none) :
    linksFrom 0 (p ++ rest) = linksFrom 0 rest := by
  induction p with
  | nil => rfl
  | cons u more ih =>
    have hnone := h u more List.suffix_rfl
    rw [List.cons_append] at hnone ⊢
    rw [linksFrom, hnone]
    exact ih fun v part hpart => h v part (hpart.trans (List.suffix_cons u more))

/-- The words before the colon of a scheme. -/
def protocols : List Text := [Text.ofString "http", Text.ofString "https"]

/-- What stands before the first colon, in small letters. -/
def protocol (t : Text) : Text := t.asciiLower.takeWhile (· != 0x3A)

theorem protocol_mem_of_schemeLength? (h : schemeLength? t = some n) : protocol t ∈ protocols := by
  obtain ⟨name, rest, rfl, -, hname⟩ := exists_of_schemeLength? h
  rw [protocol, Text.asciiLower_append]
  rcases List.mem_cons.mp hname with hhttp | hname
  · rw [hhttp]
    exact List.mem_cons_self
  · rw [List.mem_singleton.mp hname]
    exact List.mem_cons_of_mem _ List.mem_cons_self

theorem colon_mem_of_schemeLength? (h : schemeLength? t = some n) : 0x3A ∈ t := by
  obtain ⟨name, rest, rfl, -, hname⟩ := exists_of_schemeLength? h
  have hcolon : ∀ scheme ∈ schemes, 0x3A ∈ scheme := by decide
  obtain ⟨u, hu, hlower⟩ := List.mem_map.mp (hcolon _ hname)
  rw [CodeUnit.asciiLower_eq_iff (by decide)] at hlower
  exact List.mem_append_left _ (hlower ▸ hu)

theorem protocol_append (hp : 0x3A ∉ p) (t : Text) :
    protocol (p ++ t) = p.asciiLower ++ protocol t := by
  have hplain : ∀ u ∈ p.asciiLower, (u != 0x3A) = true := by
    intro v hv
    obtain ⟨u, hu, rfl⟩ := List.mem_map.mp hv
    rw [bne_iff_ne, ne_eq, CodeUnit.asciiLower_eq_iff (by decide)]
    rintro rfl
    exact hp hu
  rw [protocol, Text.asciiLower_append, List.takeWhile_append_of_pos hplain]
  rfl

/-- A scheme makes no link of the word before it. -/
theorem links_append_of_not_mem (hp : 0x3A ∉ p) (hscheme : scheme ∈ schemes) (t : Text) :
    links (p ++ (scheme ++ t)) = links (scheme ++ t) := by
  refine linksFrom_append_of_none fun u part hpart => ?_
  have hcolon : 0x3A ∉ u :: part := fun hmem => hp (hpart.subset hmem)
  have hnone : schemeLength? (u :: part ++ (scheme ++ t)) = none := by
    by_contra hne
    obtain ⟨n, hn⟩ := Option.ne_none_iff_exists'.mp hne
    have hprotocol := protocol_mem_of_schemeLength? hn
    rw [protocol_append hcolon] at hprotocol
    have hown := protocol_mem_of_schemeLength? (schemeLength?_of_mem hscheme t)
    -- no protocol is the end of another one
    have hends : ∀ a ∈ protocols, ∀ b ∈ protocols, a <:+ b → a = b := by decide
    have hsame := hends _ hown _ hprotocol (List.suffix_append _ _)
    exact absurd (List.self_eq_append_left.mp hsame) (by simp [Text.asciiLower])
  rw [linkAt?, hnone]

/-- Without a colon there is no link. -/
theorem links_eq_nil (hp : 0x3A ∉ p) : links p = [] := by
  have hnone : linksFrom 0 (p ++ []) = linksFrom 0 [] := by
    refine linksFrom_append_of_none fun u part hpart => ?_
    have hlength : schemeLength? (u :: part ++ []) = none := by
      by_contra hne
      obtain ⟨n, hn⟩ := Option.ne_none_iff_exists'.mp hne
      rw [List.append_nil] at hn
      exact hp (hpart.subset (colon_mem_of_schemeLength? hn))
    rw [linkAt?, hlength]
  rwa [List.append_nil] at hnone

/-- The last word of a text, which may be cut off by its end. -/
def lastWord (t : Text) : Text := (t.reverse.takeWhile fun u => !CodeUnit.isBlank u).reverse

theorem lastWord_cases (t : Text) :
    t = lastWord t ∨ ∃ before s, CodeUnit.isBlank s = true ∧ t = before ++ s :: lastWord t := by
  have hsplit : t = (t.reverse.dropWhile fun u => !CodeUnit.isBlank u).reverse ++ lastWord t := by
    rw [lastWord, ← List.reverse_append, List.takeWhile_append_dropWhile, List.reverse_reverse]
  have hhead := List.head?_dropWhile_not (fun u => !CodeUnit.isBlank u) t.reverse
  cases hbefore : t.reverse.dropWhile fun u => !CodeUnit.isBlank u with
  | nil =>
    rw [hbefore] at hsplit
    exact .inl hsplit
  | cons s before =>
    rw [hbefore, List.reverse_cons, List.append_assoc] at hsplit
    rw [hbefore] at hhead
    exact .inr ⟨before.reverse, s, by simpa using hhead, hsplit⟩

/-- A scheme after white space and a word without a colon begins a link of its own. -/
theorem links_append (hp : 0x3A ∉ lastWord p) (hscheme : scheme ∈ schemes) (t : Text) :
    links (p ++ (scheme ++ t)) = links p ++ links (scheme ++ t) := by
  obtain hword | ⟨before, s, hs, hword⟩ := lastWord_cases p
  · rw [hword, links_eq_nil hp, links_append_of_not_mem hp hscheme, List.nil_append]
  · generalize lastWord p = word at hp hword
    rw [hword, List.append_assoc, List.cons_append, links_append_blank hs, links_append_blank hs,
      links_eq_nil hp, links_append_of_not_mem hp hscheme, List.append_nil]

/-- After the link that a text begins with the search goes on behind it. -/
theorem links_of_linkAt? {link : Text} (h : linkAt? t = some link) (hne : link ≠ []) :
    links t = link :: links (t.drop link.length) := by
  obtain ⟨u, body, rfl⟩ := List.exists_cons_of_ne_nil hne
  obtain ⟨after, rfl⟩ := isPrefix_of_linkAt? h
  rw [List.drop_left]
  rw [List.cons_append] at h ⊢
  rw [links, linksFrom, h]
  change _ :: linksFrom body.length (body ++ after) = _
  rw [linksFrom_skip, List.drop_left]
  rfl

/-- A scheme and what follows it make the first link of a text. -/
theorem links_scheme {a : Text} (hscheme : scheme ∈ schemes) (ha : a ≠ []) (hin : ∀ u ∈ a, inLink u)
    (q : Text) : links (scheme ++ (a ++ q)) =
      (scheme ++ (a ++ q.takeWhile inLink)) :: links (q.dropWhile inLink) := by
  have hlink : linkAt? (scheme ++ (a ++ q)) = some (scheme ++ (a ++ q.takeWhile inLink)) := by
    rw [linkAt?, schemeLength?_of_mem hscheme]
    simp only [List.drop_left, List.take_left, List.takeWhile_append_of_pos hin]
    cases a with
    | nil => exact absurd rfl ha
    | cons u rest => rfl
  have htext : scheme ++ (a ++ q) =
      (scheme ++ (a ++ q.takeWhile inLink)) ++ q.dropWhile inLink := by
    simp only [List.append_assoc, List.takeWhile_append_dropWhile]
  rw [links_of_linkAt? hlink (by simp [ha])]
  conv_lhs => rw [htext, List.drop_left]

end Domain

/-! ## § Reading a link -/

namespace Url

variable {a t scheme : Text}

/-- What is left of the end of a text when it is read as a link. -/
def prepareEnd (t : Text) : Text :=
  let inner := (t.reverse.dropWhile (· ≤ 0x20)).reverse
  let kept := inner.filter fun u => !(u == 0x09 || u == 0x0A || u == 0x0D)
  Text.ofCodePoints ((Text.codePoints kept).map Text.replaceSurrogate)

@[simp] theorem prepareEnd_nil : prepareEnd [] = [] := rfl

/-- A visible sign of ASCII. -/
def isVisible (u : CodeUnit) : Bool := 0x20 < u && u < 0x80

theorem trim_append (ha : a ≠ []) (hvisible : ∀ u ∈ a, isVisible u = true) (t : Text) :
    (((a ++ t).dropWhile (· ≤ 0x20)).reverse.dropWhile (· ≤ 0x20)).reverse =
      a ++ (t.reverse.dropWhile (· ≤ 0x20)).reverse := by
  have hinner : ∀ u ∈ a, decide (u ≤ 0x20) = false := fun u hu => by
    have hlow := hvisible u hu
    rw [isVisible, Bool.and_eq_true, decide_eq_true_eq] at hlow
    exact decide_eq_false (UInt16.not_le.mpr hlow.1)
  have hstart : (a ++ t).dropWhile (· ≤ 0x20) = a ++ t := by
    obtain ⟨u, rest, rfl⟩ := List.exists_cons_of_ne_nil ha
    exact List.dropWhile_cons_of_neg (by simp [hinner u List.mem_cons_self])
  have hback : a.reverse.dropWhile (· ≤ 0x20) = a.reverse := by
    obtain ⟨u, rest, hrev⟩ := List.exists_cons_of_ne_nil (List.reverse_ne_nil_iff.mpr ha)
    rw [hrev]
    have hu : u ∈ a := List.mem_reverse.mp (hrev ▸ List.mem_cons_self)
    exact List.dropWhile_cons_of_neg (by simp [hinner u hu])
  rw [hstart, List.reverse_append, List.dropWhile_append, hback]
  split
  · next hempty => rw [List.isEmpty_iff.mp hempty]; simp
  · simp

/-- Visible ASCII is read as it is, whatever follows it. -/
theorem prepare_append (ha : a ≠ []) (hvisible : ∀ u ∈ a, isVisible u = true) (t : Text) :
    prepare (a ++ t) = a ++ prepareEnd t := by
  have hascii : a.isAscii = true := Text.isAscii_iff.mpr fun u hu => by
    have hhigh := hvisible u hu
    rw [isVisible, Bool.and_eq_true, decide_eq_true_eq, decide_eq_true_eq] at hhigh
    exact hhigh.2
  have hkept : a.filter (fun u => !(u == 0x09 || u == 0x0A || u == 0x0D)) = a := by
    refine List.filter_eq_self.mpr fun u hu => ?_
    exact CodeUnit.of_ascii (P := fun u => isVisible u = true →
      (!(u == 0x09 || u == 0x0A || u == 0x0D)) = true) (by decide)
      (Text.isAscii_iff.mp hascii u hu) (hvisible u hu)
  have hsame : (a.map (·.toNat)).map Text.replaceSurrogate = a.map (·.toNat) := by
    rw [List.map_map]
    refine List.map_congr_left fun u hu => ?_
    exact CodeUnit.of_ascii (P := fun u => Text.replaceSurrogate u.toNat = u.toNat)
      (by decide) (Text.isAscii_iff.mp hascii u hu)
  rw [prepare, prepareEnd]
  simp only [trim_append ha hvisible, List.filter_append, hkept, Text.codePoints_append hascii,
    List.map_append, hsame, Text.ofCodePoints_append, Text.ofCodePoints_map_toNat]

/-! ## § Authorities -/

/-- Visible ASCII apart from what has a meaning in an authority or ends it. -/
def isHostUnit (u : CodeUnit) : Bool :=
  isVisible u && !(Text.ofString ":/?#\\@[%").contains u

/-- What holds of the units of a host is checked one by one. -/
theorem of_isHostUnit {P : CodeUnit → Prop} [DecidablePred P]
    (h : ((List.range 0x80).all fun n =>
      isHostUnit (UInt16.ofNat n) = true → P (UInt16.ofNat n)) = true)
    {u : CodeUnit} (hu : isHostUnit u = true) : P u := by
  have hhigh := hu
  simp only [isHostUnit, isVisible, Bool.and_eq_true, decide_eq_true_eq] at hhigh
  exact CodeUnit.of_ascii (P := fun u => isHostUnit u = true → P u) h hhigh.1.2 hu

theorem isAscii_of_plain (hplain : ∀ u ∈ a, isHostUnit u = true) : a.isAscii = true :=
  Text.isAscii_iff.mpr fun u hu => of_isHostUnit (P := fun u => u < 0x80) (by decide)
    (hplain u hu)

theorem splitPort_of_plain (hplain : ∀ u ∈ a, isHostUnit u = true) :
    splitPort false a = (a, none) := by
  induction a with
  | nil => rfl
  | cons u rest ih =>
    obtain ⟨hu, hrest⟩ := List.forall_mem_cons.mp hplain
    obtain ⟨hcolon, hbracket⟩ : u ≠ 0x3A ∧ u ≠ 0x5B :=
      of_isHostUnit (P := fun u => u ≠ 0x3A ∧ u ≠ 0x5B) (by decide) hu
    simp [splitPort, hcolon, hbracket, ih hrest]

/-- What has no port and no user before it is a host. -/
theorem authorityHost?_of_plain (ha : a ≠ []) (hplain : ∀ u ∈ a, isHostUnit u = true) :
    authorityHost? true a = domain? a.codePoints := by
  have huser : a.contains 0x40 = false := by
    rw [List.contains_eq_mem, decide_eq_false_iff_not]
    exact fun hmem => absurd (hplain _ hmem) (by decide)
  have hbracket : ¬ a.head? = some 0x5B := fun hhead =>
    absurd (hplain _ (List.mem_of_mem_head? hhead)) (by decide)
  have hne : a.isEmpty = false := List.isEmpty_eq_false_iff.mpr ha
  simp only [authorityHost?, huser, Bool.false_eq_true, if_false, splitPort_of_plain hplain, hne,
    Bool.false_and, Option.map_none, Option.getD_none, Bool.not_true, readHost?, hbracket, if_true]

/-- Whether a text is empty or begins with what ends an authority. -/
def endsAuthority (t : Text) : Bool := t.head?.all fun u => u == 0x2F || u == 0x3F || u == 0x23

theorem authorityOf_append (hplain : ∀ u ∈ a, isHostUnit u = true) (ht : endsAuthority t = true) :
    authorityOf true (a ++ t) = a := by
  have hin : ∀ u ∈ a, (!(u == 0x2F || u == 0x3F || u == 0x23 || (true && u == 0x5C))) = true :=
    fun u hu => of_isHostUnit (P := fun u =>
      (!(u == 0x2F || u == 0x3F || u == 0x23 || (true && u == 0x5C))) = true)
      (by decide) (hplain u hu)
  rw [authorityOf, List.takeWhile_append_of_pos hin]
  cases t with
  | nil => exact List.append_nil a
  | cons c more =>
    have hc : (c == 0x2F || c == 0x3F || c == 0x23) = true := ht
    rw [List.takeWhile_cons, hc]
    exact List.append_nil a

/-- A link keeps its scheme, its authority and the sign after them when it is read. -/
theorem prepare_scheme (hscheme : scheme ∈ Domain.schemes) (hplain : ∀ u ∈ a, isHostUnit u = true)
    (ht : endsAuthority t = true) :
    ∃ path, endsAuthority path = true ∧ prepare (scheme ++ (a ++ t)) = scheme ++ (a ++ path) := by
  have hne : scheme ≠ [] := by rintro rfl; exact absurd hscheme (by decide)
  have hvisible : ∀ u ∈ scheme ++ a, isVisible u = true := by
    have hschemes : ∀ scheme ∈ Domain.schemes, scheme.all isVisible = true := by decide
    intro u hu
    rcases List.mem_append.mp hu with hu | hu
    · exact List.all_eq_true.mp (hschemes scheme hscheme) u hu
    · exact (Bool.and_eq_true _ _ ▸ hplain u hu).1
  cases t with
  | nil =>
    refine ⟨[], rfl, ?_⟩
    rw [← List.append_assoc, prepare_append (by simp [hne]) hvisible, prepareEnd_nil,
      List.append_assoc]
  | cons c more =>
    refine ⟨c :: prepareEnd more, ht, ?_⟩
    have hc : isVisible c = true := by
      have hcases : ((c = 0x2F ∨ c = 0x3F) ∨ c = 0x23) := by simpa [endsAuthority] using ht
      rcases hcases with (rfl | rfl) | rfl <;> decide
    have hall : ∀ u ∈ scheme ++ a ++ [c], isVisible u = true := by
      intro u hu
      rcases List.mem_append.mp hu with hu | hu
      · exact hvisible u hu
      · exact List.mem_singleton.mp hu ▸ hc
    have hprepare := prepare_append (by simp) hall more
    simpa only [List.append_assoc, List.singleton_append] using hprepare

/-- The host of a web link is the domain that stands between the scheme and the end of the
authority. -/
theorem host?_scheme (hscheme : scheme ∈ Domain.schemes) (ha : a ≠ [])
    (hplain : ∀ u ∈ a, isHostUnit u = true) (ht : endsAuthority t = true) :
    host? (scheme ++ (a ++ t)) = domain? a.codePoints := by
  obtain ⟨path, hpath, hprepare⟩ := prepare_scheme hscheme hplain ht
  obtain ⟨protocol, hweb, hfile, hcut⟩ : ∃ protocol, isWebScheme protocol = true ∧
      protocol ≠ Text.ofString "file" ∧
      cutScheme? (scheme ++ (a ++ path)) = some (protocol, 0x2F :: 0x2F :: (a ++ path)) := by
    rcases List.mem_cons.mp hscheme with rfl | hscheme
    · exact ⟨Text.ofString "http", by decide, by decide, rfl⟩
    · rw [List.mem_singleton.mp hscheme]
      exact ⟨Text.ofString "https", by decide, by decide, rfl⟩
  have hslashes : (0x2F :: 0x2F :: (a ++ path)).dropWhile isSlash = a ++ path := by
    obtain ⟨u, rest, rfl⟩ := List.exists_cons_of_ne_nil ha
    have hu : isSlash u = false :=
      of_isHostUnit (P := fun u => isSlash u = false) (by decide)
        (hplain u List.mem_cons_self)
    change (u :: (rest ++ path)).dropWhile isSlash = _
    exact List.dropWhile_cons_of_neg (by simp [hu])
  rw [host?, schemeAndHost?, hprepare, hcut]
  simp only [hfile, if_false, hweb, if_true, hslashes, authorityOf_append hplain hpath,
    authorityHost?_of_plain ha hplain, Option.map_map]
  exact Option.map_id'

end Url

end ChatModeration
