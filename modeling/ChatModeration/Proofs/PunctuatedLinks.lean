/-
ChatModeration.Proofs.PunctuatedLinks — what may follow the name in a link.

A link goes on up to white space, so that the marks that close a sentence or a
format become part of it.  Where the name is followed by the end of the link, a
slash, a question mark or a number sign, the host of the link is that name.
Where it is followed by closing marks they become part of the host, or there is
no host at all, and a filter for the name finds nothing in this link.

The main statement is `reports_link_iff`.
-/
import ChatModeration.FilterList.Kinds
import ChatModeration.Proofs.BuiltCatalogue
import ChatModeration.Proofs.LinkedHosts

namespace ChatModeration.Domain

/-! ## § Reports -/

/-- The host of a link in small letters. -/
def linkHost? (link : Text) : Option Text := (Url.host? link).map Text.toLower

/-- The links of the embeds of a message. -/
def embedLinks (m : Incoming) : List Text :=
  m.embeds.filterMap fun e => e.url.filter fun url => !url.isEmpty

/-- Whether a filter is among the reports of a list about a message, with a host among what it
found. -/
def Reports (list : FilterList) (ctx : Context) (f : Filter) (host : Text) : Prop :=
  ∃ found, (list.evaluate ctx).1 = .ok found ∧
    ∃ t ∈ found, t.toFilter = f ∧ Value.text host ∈ t.found

theorem mem_hostsOf {m : Incoming} {host : Text} :
    host ∈ hostsOf m ↔ host ∈ (links m.content ++ embedLinks m).filterMap linkHost? :=
  mem_distinct

/-- A filter finds the hosts that it covers. -/
theorem found_of_trigger? {hosts : List Text} {f : Filter} {t : TriggeredFilter}
    (h : trigger? hosts f = some t) :
    t = ⟨f, (hosts.filter (covers f.content.toLower)).map Value.text⟩ := by
  rw [trigger?] at h
  split at h
  · cases h
  · exact (Option.some.inj h).symm

theorem trigger?_of_mem {hosts : List Text} {f : Filter} {host : Text} (hmem : host ∈ hosts)
    (hcovers : covers f.content.toLower host = true) :
    ∃ t, trigger? hosts f = some t ∧ t.toFilter = f ∧ Value.text host ∈ t.found := by
  have hfound : host ∈ hosts.filter (covers f.content.toLower) :=
    List.mem_filter.mpr ⟨hmem, hcovers⟩
  rw [trigger?]
  split
  · next hnone => exact absurd hfound (hnone ▸ List.not_mem_nil)
  · exact ⟨_, rfl, rfl, List.mem_map_of_mem hfound⟩

/-- A domain list reports its filters with the hosts that they cover. -/
theorem reports_iff {list : FilterList} (hlist : list.detection = .domain) {f : Filter}
    (hf : f ∈ list.filters) {ctx : Context} {host : Text} :
    Reports list ctx f host ↔
      host ∈ hostsOf ctx.toIncoming ∧ covers f.content.toLower host = true := by
  have hevaluate : (list.evaluate ctx).1 = .ok (triggered list.filters ctx.toIncoming) := by
    rw [FilterList.evaluate, hlist]
  constructor
  · rintro ⟨found, hfound, t, ht, rfl, hhost⟩
    rw [hevaluate] at hfound
    obtain rfl := Except.ok.inj hfound
    obtain ⟨g, -, hg⟩ := List.mem_filterMap.mp ht
    obtain rfl := found_of_trigger? hg
    obtain ⟨other, hother, heq⟩ := List.mem_map.mp hhost
    obtain rfl := Value.text.inj heq
    exact List.mem_filter.mp hother
  · rintro ⟨hmem, hcovers⟩
    obtain ⟨t, ht, hfilter, hhost⟩ := trigger?_of_mem hmem hcovers
    exact ⟨_, hevaluate, t, List.mem_filterMap.mpr ⟨f, hf, ht⟩, hfilter, hhost⟩

/-! ## § What follows the name -/

/-- Marks that close a sentence, a bracket or a format. -/
def closingMarks : Text := Text.ofString ")]\x7d,.!;*_~|"

/-- Whether the name of a host ends where this text begins. -/
def EndsHost (q : Text) : Prop :=
  ∀ u ∈ q.head?, CodeUnit.isBlank u = true ∨ u = 0x2F ∨ u = 0x3F ∨ u = 0x23

/-- Closing marks before white space or the end of a text. -/
def Closes (q : Text) : Prop :=
  ∃ marks after, q = marks ++ after ∧ marks ≠ [] ∧ (∀ u ∈ marks, u ∈ closingMarks) ∧
    ∀ u ∈ after.head?, CodeUnit.isBlank u = true

variable {scheme h q : Text}

theorem isHostUnit_of_isName (hh : Url.Domain.isName h = true) :
    ∀ u ∈ h, Url.isHostUnit u = true :=
  Url.Domain.forall_of_isName (by decide) (by decide) hh

theorem closingMarks_spec : ∀ u ∈ closingMarks, Url.isHostUnit u = true ∧ inLink u = true ∧
    CodeUnit.asciiLower u = u ∧ CodeUnit.isDigit u = false ∧ Url.isLetter u = false ∧
    Url.Domain.isLabelUnit u = false := by
  have hall : closingMarks.all (fun u => Url.isHostUnit u && inLink u &&
      CodeUnit.asciiLower u == u && !CodeUnit.isDigit u && !Url.isLetter u &&
      !Url.Domain.isLabelUnit u) = true := by decide
  intro u hu
  simpa [and_assoc] using List.all_eq_true.mp hall u hu

theorem isHostUnit_of_closing {marks : Text} (hh : Url.Domain.isName h = true)
    (hclosing : ∀ u ∈ marks, u ∈ closingMarks) : ∀ u ∈ h ++ marks, Url.isHostUnit u = true := by
  intro u hu
  rcases List.mem_append.mp hu with hu | hu
  · exact isHostUnit_of_isName hh u hu
  · exact (closingMarks_spec u (hclosing u hu)).1

/-- What belongs to a link after the end of its host begins with the end of an authority. -/
theorem endsAuthority_of_endsHost (hq : EndsHost q) :
    Url.endsAuthority (q.takeWhile inLink) = true := by
  cases q with
  | nil => rfl
  | cons u rest =>
    have hu := hq u rfl
    rw [List.takeWhile_cons]
    split
    · next hin =>
      have hblank : ¬ CodeUnit.isBlank u = true := by
        intro hblank
        simp [inLink, hblank] at hin
      simpa [Url.endsAuthority, or_assoc] using hu.resolve_left hblank
    · rfl

/-- The host of a link is the name after which its host ends. -/
theorem linkHost?_of_endsHost (hscheme : scheme ∈ schemes) (hh : Url.Domain.isName h = true)
    (hq : EndsHost q) :
    linkHost? (scheme ++ (h ++ q.takeWhile inLink)) = some h.asciiLower := by
  have hhost := Url.host?_scheme hscheme (Url.Domain.ne_nil_of_isName hh)
    (isHostUnit_of_isName hh) (endsAuthority_of_endsHost hq)
  rw [linkHost?, hhost, Url.domain?_of_isName hh, Option.map_some,
    Text.toLower_of_isAscii (Text.isAscii_asciiLower (Url.Domain.isAscii_of_isName hh)),
    Text.asciiLower_idem]

/-- Closing marks belong to a link, and nothing after them does. -/
theorem takeWhile_inLink_of_closing {marks after : Text} (hclosing : ∀ u ∈ marks, u ∈ closingMarks)
    (hafter : ∀ u ∈ after.head?, CodeUnit.isBlank u = true) :
    (marks ++ after).takeWhile inLink = marks := by
  rw [List.takeWhile_append_of_pos fun u hu => (closingMarks_spec u (hclosing u hu)).2.1]
  cases after with
  | nil => exact List.append_nil marks
  | cons u rest =>
    have hout : inLink u = false := by simp [inLink, hafter u rfl]
    rw [List.takeWhile_cons, hout]
    exact List.append_nil marks

theorem asciiLower_of_closing {marks : Text} (hclosing : ∀ u ∈ marks, u ∈ closingMarks) :
    marks.asciiLower = marks :=
  (List.map_congr_left fun u hu => (closingMarks_spec u (hclosing u hu)).2.2.1).trans
    (List.map_id' marks)

/-- If a name with closing marks after it is a domain, the marks are part of the domain. -/
theorem domain?_of_closing {marks host : Text} (hh : Url.Domain.isName h = true)
    (hclosing : ∀ u ∈ marks, u ∈ closingMarks)
    (hhost : Url.domain? (h ++ marks).codePoints = some host) :
    host = (h ++ marks).asciiLower := by
  have hplain := isHostUnit_of_closing hh hclosing
  have hpercent : 0x25 ∉ h ++ marks := fun hmem => absurd (hplain _ hmem) (by decide)
  have hnumber : Url.Ipv4.endsInNumber (h ++ marks).asciiLower = false := by
    rw [Text.asciiLower_append, asciiLower_of_closing hclosing]
    exact Url.Domain.endsInNumber_of_isName hh marks fun u hu =>
      (closingMarks_spec u (hclosing u hu)).2.2.2.1
  rw [Url.domain?_ascii (Url.isAscii_of_plain hplain) hpercent hnumber] at hhost
  split at hhost
  · exact (Option.some.inj hhost).symm
  · cases hhost

/-- With closing marks after the name, the host of a link ends in these marks, if it has a host. -/
theorem linkHost?_of_closes {host : Text} (hscheme : scheme ∈ schemes)
    (hh : Url.Domain.isName h = true) (hq : Closes q)
    (hhost : linkHost? (scheme ++ (h ++ q.takeWhile inLink)) = some host) :
    ∃ u ∈ closingMarks, ∃ init, host = init ++ [u] := by
  obtain ⟨marks, after, rfl, hmarks, hclosing, hafter⟩ := hq
  have hplain := isHostUnit_of_closing hh hclosing
  have hread := Url.host?_scheme (t := []) hscheme (by simp [hmarks]) hplain rfl
  rw [List.append_nil] at hread
  rw [takeWhile_inLink_of_closing hclosing hafter, linkHost?, hread] at hhost
  obtain ⟨domain, hdomain, rfl⟩ := Option.map_eq_some_iff.mp hhost
  obtain rfl := domain?_of_closing hh hclosing hdomain
  rcases List.eq_nil_or_concat marks with hnil | ⟨before, u, hlast⟩
  · exact absurd hnil hmarks
  · refine ⟨u, hclosing u (by simp [hlast]), h.asciiLower ++ before, ?_⟩
    rw [Text.toLower_of_isAscii (Text.isAscii_asciiLower (Url.isAscii_of_plain hplain)),
      Text.asciiLower_idem, Text.asciiLower_append, asciiLower_of_closing hclosing, hlast,
      List.concat_eq_append, List.append_assoc]

/-- No domain covers a host that ends in a closing mark. -/
theorem covers_closing {d host : Text} (hd : Url.Domain.isName d = true) {u : CodeUnit}
    (hu : u ∈ closingMarks) {init : Text} (hhost : host = init ++ [u]) :
    covers d.asciiLower host = false := by
  by_contra hcovers
  rw [Bool.not_eq_false, covers, Bool.or_eq_true, decide_eq_true_eq,
    List.isSuffixOf_iff_suffix] at hcovers
  have hsuffix : d.asciiLower <:+ init ++ [u] := by
    rw [← hhost]
    rcases hcovers with rfl | hcovers
    · exact List.suffix_rfl
    · exact (List.suffix_cons _ _).trans hcovers
  rcases List.eq_nil_or_concat d with hnil | ⟨before, v, rfl⟩
  · exact Url.Domain.ne_nil_of_isName hd hnil
  · rw [List.concat_eq_append] at hd hsuffix
    have hlast : CodeUnit.asciiLower v = u := by
      obtain ⟨front, hfront⟩ := hsuffix
      rw [Text.asciiLower_append, ← List.append_assoc] at hfront
      exact List.singleton_inj.mp (List.append_inj' hfront rfl).2
    obtain ⟨-, -, -, -, hletter, hunit⟩ := closingMarks_spec u hu
    obtain rfl := (CodeUnit.asciiLower_eq_iff hletter).mp hlast
    rw [Url.Domain.isLabelUnit_of_last hd] at hunit
    cases hunit

/-! ## § Links to a domain -/

/-- The hosts of the links that come before a link, after it, and in the embeds. -/
def otherHosts (p q : Text) (m : Incoming) : List Text :=
  (links p ++ links (q.dropWhile inLink) ++ embedLinks m).filterMap linkHost?

/-- The hosts of a message with a link are those of the link and of the others. -/
theorem mem_hostsOf_link {p : Text} {m : Incoming} {host : Text} (hp : 0x3A ∉ lastWord p)
    (hscheme : scheme ∈ schemes) (hh : Url.Domain.isName h = true)
    (hcontent : m.content = p ++ scheme ++ h ++ q) :
    host ∈ hostsOf m ↔
      linkHost? (scheme ++ (h ++ q.takeWhile inLink)) = some host ∨ host ∈ otherHosts p q m := by
  have hin : ∀ u ∈ h, inLink u = true := Url.Domain.forall_of_isName (by decide) (by decide) hh
  have hlinks : links m.content = links p ++
      (scheme ++ (h ++ q.takeWhile inLink)) :: links (q.dropWhile inLink) := by
    rw [hcontent, List.append_assoc, List.append_assoc, links_append hp hscheme,
      links_scheme hscheme (Url.Domain.ne_nil_of_isName hh) hin]
  rw [mem_hostsOf, hlinks, otherHosts]
  simp only [List.mem_filterMap, List.mem_append, List.mem_cons]
  grind

variable {p d : Text}

/-- The domain of a name covers it, in small letters. -/
theorem covers_of_isName (hd : Url.Domain.isName d = true)
    (hcovers : h.asciiLower = d.asciiLower ∨ 0x2E :: d.asciiLower <:+ h.asciiLower) :
    covers d.toLower h.asciiLower = true := by
  rw [Text.toLower_of_isAscii (Url.Domain.isAscii_of_isName hd), covers, Bool.or_eq_true,
    decide_eq_true_eq, List.isSuffixOf_iff_suffix]
  exact hcovers

/-- After closing marks a filter finds nothing but what it finds in other links. -/
theorem mem_otherHosts_of_closes {list : FilterList} (hlist : list.detection = .domain) {f : Filter}
    (hf : f ∈ list.filters) (hd : Url.Domain.isName f.content = true)
    (hh : Url.Domain.isName h = true) (hscheme : scheme ∈ schemes) (hp : 0x3A ∉ lastWord p)
    (hq : Closes q) {ctx : Context} (hcontent : ctx.content = p ++ scheme ++ h ++ q) {host : Text}
    (hreports : Reports list ctx f host) : host ∈ otherHosts p q ctx.toIncoming := by
  obtain ⟨hhost, hcover⟩ := (reports_iff hlist hf).mp hreports
  refine ((mem_hostsOf_link hp hscheme hh hcontent).mp hhost).resolve_left fun hlink => ?_
  obtain ⟨u, hu, init, hend⟩ := linkHost?_of_closes hscheme hh hq hlink
  rw [Text.toLower_of_isAscii (Url.Domain.isAscii_of_isName hd),
    covers_closing hd hu hend] at hcover
  cases hcover

/-- **Punctuated links.**  Let a message hold a link to the domain of a filter or to one of its
subdomains, written in any letters.  If the name ends where the link does, or at a slash, a question
mark or a number sign, the filter is reported with the name.  If closing marks follow the name up to
white space or the end of the text, the filter is reported with the name just when another link is
to it, and it finds nothing but what it finds in other links. -/
theorem reports_link_iff {list : FilterList} (hlist : list.detection = .domain) {f : Filter}
    (hf : f ∈ list.filters) (hd : Url.Domain.isName f.content = true)
    (hh : Url.Domain.isName h = true)
    (hcovers : h.asciiLower = f.content.asciiLower ∨
      0x2E :: f.content.asciiLower <:+ h.asciiLower)
    (hscheme : scheme ∈ schemes) (hp : 0x3A ∉ lastWord p) (hq : EndsHost q ∨ Closes q)
    {ctx : Context} (hcontent : ctx.content = p ++ scheme ++ h ++ q) :
    let others := otherHosts p q ctx.toIncoming
    (Reports list ctx f h.asciiLower ↔ EndsHost q ∨ h.asciiLower ∈ others) ∧
      (Closes q → ∀ host, Reports list ctx f host → host ∈ others) := by
  intro others
  have hcloses (hq : Closes q) (host : Text) (hreports : Reports list ctx f host) :
      host ∈ others := mem_otherHosts_of_closes hlist hf hd hh hscheme hp hq hcontent hreports
  refine ⟨⟨fun hreports => hq.imp_right fun hq => hcloses hq _ hreports, fun hends => ?_⟩, hcloses⟩
  have hmem : h.asciiLower ∈ hostsOf ctx.toIncoming := by
    refine (mem_hostsOf_link hp hscheme hh hcontent).mpr ?_
    exact hends.imp_left fun hends => linkHost?_of_endsHost hscheme hh hends
  exact (reports_iff hlist hf).mpr ⟨hmem, covers_of_isName hd hcovers⟩

/-- A filter for a domain that does nothing. -/
def blocked (domain : String) : Filter := ⟨1, Text.ofString domain, none, ⟨none⟩⟩

/-- A domain list with one filter. -/
def blocking (domain : String) : FilterList := FilterList.domain.add [blocked domain]

/-- A message with a text and without embeds. -/
def posting (content : String) : Context :=
  Context.ofIncoming
    ⟨.message, ⟨[], [], none, false⟩, ⟨[], [], none⟩, Text.ofString content, none, []⟩

theorem closes_singleton {u : CodeUnit} (hu : u ∈ closingMarks) : Closes [u] :=
  ⟨[u], [], (List.append_nil _).symm, List.cons_ne_nil _ _,
    fun _ hv => List.mem_singleton.mp hv ▸ hu, fun _ hv => absurd hv (Option.not_mem_none _)⟩

/-- In parentheses a link with a path is found, and one without is not. -/
theorem reports_link_iff_parenthesis :
    Reports (blocking "bad.example") (posting "see (http://www.Bad.example/login)")
        (blocked "bad.example") (Text.ofString "www.bad.example") ∧
      ∀ host, ¬ Reports (blocking "bad.example") (posting "see (http://www.Bad.example)")
        (blocked "bad.example") host := by
  have hfilter : blocked "bad.example" ∈ (blocking "bad.example").filters :=
    List.mem_singleton_self _
  have hd : Url.Domain.isName (blocked "bad.example").content = true := by decide
  have hh : Url.Domain.isName (Text.ofString "www.Bad.example") = true := by decide
  have hcovers : 0x2E :: (blocked "bad.example").content.asciiLower <:+
      (Text.ofString "www.Bad.example").asciiLower := by decide
  have hscheme : Text.ofString "http://" ∈ schemes := by decide
  have hp : 0x3A ∉ lastWord (Text.ofString "see (") := by decide
  constructor
  · have hends : EndsHost (Text.ofString "/login)") := fun u hu =>
      .inr (.inl (Option.some.inj hu).symm)
    have hcontent : (posting "see (http://www.Bad.example/login)").content =
        Text.ofString "see (" ++ Text.ofString "http://" ++ Text.ofString "www.Bad.example" ++
          Text.ofString "/login)" := by
      decide
    exact (reports_link_iff rfl hfilter hd hh (.inr hcovers) hscheme hp (.inl hends)
      hcontent).1.mpr (.inl hends)
  · intro host hreports
    have hcloses : Closes [0x29] := closes_singleton (by decide)
    have hcontent : (posting "see (http://www.Bad.example)").content = Text.ofString "see (" ++
        Text.ofString "http://" ++ Text.ofString "www.Bad.example" ++ [0x29] := by
      decide
    have hother := (reports_link_iff rfl hfilter hd hh (.inr hcovers) hscheme hp (.inr hcloses)
      hcontent).2 hcloses host hreports
    exact absurd hother List.not_mem_nil

/-- Not every link to a blocked domain is found, whatever follows it: here the dot at the end of a
sentence becomes part of the host. -/
theorem punctuated_links_fail :
    ¬ ∀ (list : FilterList) (f : Filter) (ctx : Context) (p scheme h q : Text),
      list.detection = .domain → f ∈ list.filters → Url.Domain.isName f.content = true →
      Url.Domain.isName h = true →
      (h.asciiLower = f.content.asciiLower ∨ 0x2E :: f.content.asciiLower <:+ h.asciiLower) →
      scheme ∈ schemes → 0x3A ∉ lastWord p → EndsHost q ∨ Closes q →
      ctx.content = p ++ scheme ++ h ++ q → Reports list ctx f h.asciiLower := by
  intro hall
  have hfilter : blocked "bad.example" ∈ (blocking "bad.example").filters :=
    List.mem_singleton_self _
  have hname : Url.Domain.isName (Text.ofString "bad.example") = true := by decide
  have hscheme : Text.ofString "http://" ∈ schemes := by decide
  have hp : 0x3A ∉ lastWord (Text.ofString "see ") := by decide
  have hcloses : Closes [0x2E] := closes_singleton (by decide)
  have hcontent : (posting "see http://bad.example.").content = Text.ofString "see " ++
      Text.ofString "http://" ++ Text.ofString "bad.example" ++ [0x2E] := by
    decide
  have hreports := hall _ _ _ _ _ _ _ rfl hfilter hname hname (.inl rfl) hscheme hp (.inr hcloses)
    hcontent
  have hother := mem_otherHosts_of_closes rfl hfilter hname hname hscheme hp hcloses hcontent
    hreports
  exact absurd hother List.not_mem_nil

end ChatModeration.Domain
