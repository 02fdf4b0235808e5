/-
ChatModeration.Proofs.WrittenLines — lines of a settings file in any layout.

A settings file is read by trimming, by cutting at colons and by taking quotes
off, and the texts in it may hold white space, colons and quotes of their own.
`Layout` says which written lines say given meaningful ones, with white space,
blank lines and comments wherever one may put them.

The main statement is `readLines_layout`: every layout is read as what it says.
-/
import ChatModeration.Config.Line
import ChatModeration.Proofs.LabelBoundaries
import Mathlib.Data.List.TakeWhile

namespace ChatModeration

/-! ## § White space around a text -/

namespace Text

variable {a t : Text} {mark : CodeUnit}

/-- A text that neither starts nor ends with white space. -/
def Solid (t : Text) : Prop :=
  (∃ u ∈ t.head?, CodeUnit.isBlank u = false) ∧ ∃ u ∈ t.getLast?, CodeUnit.isBlank u = false

/-- A text without line terminators. -/
def OneLine (t : Text) : Prop := ∀ u ∈ t, CodeUnit.isLineEnd u = false

instance (t : Text) : Decidable t.Solid := inferInstanceAs (Decidable (_ ∧ _))

instance (t : Text) : Decidable t.OneLine := List.decidableBAll _ t

theorem trimStart_append (ha : ∀ u ∈ a, CodeUnit.isBlank u = true) (t : Text) :
    trimStart (a ++ t) = trimStart t :=
  List.dropWhile_append_of_pos ha

theorem trimStart_of_head? (h : ∃ u ∈ t.head?, CodeUnit.isBlank u = false) : trimStart t = t := by
  obtain ⟨u, hu, hblank⟩ := h
  obtain ⟨rest, rfl⟩ := List.head?_eq_some_iff.mp hu
  exact List.dropWhile_cons_of_neg (by simp [hblank])

theorem trimEnd_append (ht : ∀ u ∈ t, CodeUnit.isBlank u = true) (a : Text) :
    trimEnd (a ++ t) = trimEnd a := by
  unfold trimEnd
  rw [List.reverse_append, List.dropWhile_append_of_pos (by simpa using ht)]

theorem trimEnd_of_blank (ht : ∀ u ∈ t, CodeUnit.isBlank u = true) : trimEnd t = [] :=
  trimEnd_append ht []

/-- What stands before a unit that is no white space is not trimmed from the end. -/
theorem trimEnd_append_cons {u : CodeUnit} (hu : CodeUnit.isBlank u = false) (a t : Text) :
    trimEnd (a ++ u :: t) = a ++ u :: trimEnd t := by
  have hreverse : (a ++ u :: t).reverse = t.reverse ++ u :: a.reverse := by simp
  rw [trimEnd, hreverse, List.dropWhile_append, List.dropWhile_cons_of_neg (by simp [hu]), trimEnd]
  split
  · next hnil => simp [List.isEmpty_iff.mp hnil]
  · simp

theorem trim_append (ht : ∀ u ∈ t, CodeUnit.isBlank u = true) (a : Text) :
    trim (a ++ t) = trim a := by
  rw [trim, trimStart, List.dropWhile_append]
  split
  · next hnil =>
    have hblank : t.dropWhile CodeUnit.isBlank = [] := List.dropWhile_eq_nil_iff.mpr ht
    rw [hblank, trim, trimStart, List.isEmpty_iff.mp hnil]
  · exact trimEnd_append ht _

/-- Only white space is trimmed from the end. -/
theorem exists_trimEnd (t : Text) :
    ∃ blank, (∀ u ∈ blank, CodeUnit.isBlank u = true) ∧ t = trimEnd t ++ blank := by
  refine ⟨(t.reverse.takeWhile CodeUnit.isBlank).reverse, fun u hu => ?_, ?_⟩
  · exact List.mem_takeWhile_imp (List.mem_reverse.mp hu)
  · rw [trimEnd, ← List.reverse_append, List.takeWhile_append_dropWhile, List.reverse_reverse]

theorem trim_trimEnd (t : Text) : trim (trimEnd t) = trim t := by
  obtain ⟨blank, hblank, ht⟩ := exists_trimEnd t
  conv_rhs => rw [ht, trim_append hblank]

theorem trimEnd_of_getLast? (h : ∃ u ∈ t.getLast?, CodeUnit.isBlank u = false) :
    trimEnd t = t := by
  obtain ⟨u, hu, hblank⟩ := h
  obtain ⟨init, rfl⟩ := List.getLast?_eq_some_iff.mp hu
  rw [trimEnd_append_cons hblank, trimEnd_of_blank (by simp)]

theorem solid_of_forall (hne : t ≠ []) (h : ∀ u ∈ t, CodeUnit.isBlank u = false) : t.Solid :=
  ⟨⟨t.head hne, List.head?_eq_some_head hne, h _ (List.head_mem hne)⟩,
    t.getLast hne, List.getLast?_eq_some_getLast hne, h _ (List.getLast_mem hne)⟩

theorem Solid.trim_append (ha : ∀ u ∈ a, CodeUnit.isBlank u = true) (h : t.Solid) :
    trim (a ++ t) = t := by
  rw [trim, trimStart_append ha, trimStart_of_head? h.1, trimEnd_of_getLast? h.2]

theorem OneLine.linefeed_not_mem (h : t.OneLine) : 0x0A ∉ t :=
  fun hmem => absurd (h _ hmem) (by decide)

/-! ## § Marks in a text -/

/-- A text is cut at the first mark. -/
theorem cutAt?_append (ha : mark ∉ a) (t : Text) :
    cutAt? (· == mark) (a ++ mark :: t) = some (a, t) := by
  induction a with
  | nil => simp [cutAt?]
  | cons u rest ih =>
    have hu : u ≠ mark := (List.ne_of_not_mem_cons ha).symm
    simp [cutAt?, hu, ih (List.not_mem_of_not_mem_cons ha)]

/-- A text without marks is one part. -/
theorem splitOn_of_not_mem (h : mark ∉ t) : splitOn (· == mark) t = [t] := by
  induction t with
  | nil => rfl
  | cons u rest ih =>
    have hu : (u == mark) = false := beq_false_of_ne (List.ne_of_not_mem_cons h).symm
    exact splitOn_cons hu (ih (List.not_mem_of_not_mem_cons h))

/-- Parts that hold no mark come back when they have been joined with it. -/
theorem splitOn_join {parts : List Text} (hne : parts ≠ []) (h : ∀ part ∈ parts, mark ∉ part) :
    splitOn (· == mark) (join [mark] parts) = parts := by
  induction parts with
  | nil => exact absurd rfl hne
  | cons part rest ih =>
    obtain ⟨hpart, hrest⟩ := List.forall_mem_cons.mp h
    have hpart : splitOn (· == mark) part = [part] := splitOn_of_not_mem hpart
    cases rest with
    | nil => simpa [join] using hpart
    | cons next more =>
      have hmore : next :: more ≠ [] := List.cons_ne_nil next more
      have hjoin : join [mark] (part :: next :: more) =
          part ++ mark :: join [mark] (next :: more) := by
        simp [join, List.intercalate_cons_of_ne_nil hmore]
      rw [hjoin, splitOn_append_cons (· == mark) (beq_self_eq_true mark), hpart, ih hmore hrest]
      rfl

end Text

namespace Config

/-! ## § Written lines -/

/-- A line cut in two at its first colon. -/
structure Cut (line before after : Text) : Prop where
  eq : line = before ++ 0x3A :: after
  first : 0x3A ∉ before

/-- White space within one line, among it the first half of a CR LF. -/
def IsMargin (t : Text) : Prop := ∀ u ∈ t, CodeUnit.isBlank u = true ∧ u ≠ 0x0A

/-- White space that starts with a space or a tab. -/
def IsIndent (t : Text) : Prop := IsMargin t ∧ (t.head? = some 0x20 ∨ t.head? = some 0x09)

/-- A text that can stand before the colon of a line. -/
def IsName (t : Text) : Prop := t.Solid ∧ 0x3A ∉ t ∧ 0x0A ∉ t ∧ t.head? ≠ some 0x23

instance (t : Text) : Decidable (IsMargin t) := List.decidableBAll _ t

instance (t : Text) : Decidable (IsIndent t) := inferInstanceAs (Decidable (_ ∧ _))

instance (t : Text) : Decidable (IsName t) := inferInstanceAs (Decidable (_ ∧ _))

/-- How a flag is written. -/
def flagName (value : Bool) : Text := Text.ofString (if value then "true" else "false")

/-- The texts that write a scalar: a flag is written by its name, and a text as it is, between a
pair of quotes or, where it cannot be mistaken, without one. -/
inductive Scalar.Writes : Scalar → Text → Prop
  | flag (value : Bool) : Writes (.flag value) (flagName value)
  | quoted {quote : CodeUnit} (hquote : quote = 0x22 ∨ quote = 0x27) (t : Text) :
      Writes (.text t) (quote :: (t ++ [quote]))
  | bare {t : Text} (hsolid : t.Solid) (hquote : ∀ u ∈ t.head?, u ≠ 0x22 ∧ u ≠ 0x27)
      (hflag : ∀ value, t ≠ flagName value) : Writes (.text t) t

/-- The texts that write a meaningful line. -/
inductive Line.Writes : Line → Text → Prop
  | header {name trailing : Text} (hname : IsName name) (htrailing : IsMargin trailing) :
      Writes (.header name) (name ++ 0x3A :: trailing)
  | entry {indent key gap written trailing : Text} {value : Scalar} (hindent : IsIndent indent)
      (hkey : IsName key) (hgap : IsMargin gap) (hvalue : value.Writes written)
      (htrailing : IsMargin trailing) :
      Writes (.entry key value) (indent ++ (key ++ 0x3A :: (gap ++ (written ++ trailing))))

/-- Lines that mean nothing: blank ones and comments. -/
inductive Filler : Text → Prop
  | blank {margin : Text} (hmargin : IsMargin margin) : Filler margin
  | comment {margin t : Text} (hmargin : IsMargin margin) (ht : 0x0A ∉ t) :
      Filler (margin ++ 0x23 :: t)

/-- Written lines that say the given ones in their order, with fillers anywhere. -/
inductive Layout : List Line → List Text → Prop
  | nil : Layout [] []
  | filler {lines : List Line} {written : Text} {rest : List Text} (hfiller : Filler written)
      (hrest : Layout lines rest) : Layout lines (written :: rest)
  | line {line : Line} {lines : List Line} {written : Text} {rest : List Text}
      (hline : line.Writes written) (hrest : Layout lines rest) :
      Layout (line :: lines) (written :: rest)

/-- A scalar without a line terminator in it. -/
def Scalar.OneLine : Scalar → Prop
  | flag _ => True
  | text t => t.OneLine

/-- A line without a line terminator in its value. -/
def Line.OneLine : Line → Prop
  | header _ => True
  | entry _ value => value.OneLine

variable {line : Line} {lines : List Line} {layout : List Text} {t name written : Text}

/-! ## § Scalars -/

namespace Scalar

variable {value : Scalar} {quote : CodeUnit}

theorem Writes.solid (h : value.Writes written) : written.Solid := by
  cases h with
  | flag value => cases value <;> decide
  | @quoted quote hquote t =>
    have hblank : CodeUnit.isBlank quote = false := by rcases hquote with rfl | rfl <;> decide
    exact ⟨⟨quote, rfl, hblank⟩, quote, List.getLast?_concat (l := quote :: t), hblank⟩
  | bare hsolid _ _ => exact hsolid

theorem Writes.linefeed_not_mem (h : value.Writes written) (hvalue : value.OneLine) :
    0x0A ∉ written := by
  cases h with
  | flag value => cases value <;> decide
  | @quoted quote hquote t =>
    have hne : 0x0A ≠ quote := by rcases hquote with rfl | rfl <;> decide
    simpa [hne] using Text.OneLine.linefeed_not_mem hvalue
  | bare _ _ _ => exact Text.OneLine.linefeed_not_mem hvalue

/-- Quotes are taken off from the ends only, whatever stands between them. -/
theorem unquote?_quoted (hquote : quote = 0x22 ∨ quote = 0x27) (ht : t.OneLine) :
    unquote? (quote :: (t ++ [quote])) = some t := by
  have hline : t.any CodeUnit.isLineEnd = false := by simpa [Text.OneLine] using ht
  rcases hquote with rfl | rfl <;> simp [unquote?, hline]

theorem unquote?_bare (hquote : ∀ u ∈ t.head?, u ≠ 0x22 ∧ u ≠ 0x27) : unquote? t = none := by
  cases t with
  | nil => rfl
  | cons u rest =>
    obtain ⟨hdouble, hsingle⟩ := hquote u rfl
    simp [unquote?, hdouble, hsingle]

theorem quoted_ne_flagName (hquote : quote = 0x22 ∨ quote = 0x27) (t : Text) (value : Bool) :
    quote :: (t ++ [quote]) ≠ flagName value := by
  intro heq
  have hhead : some quote = (flagName value).head? := congrArg List.head? heq
  rcases hquote with rfl | rfl <;> cases value <;> exact absurd hhead (by decide)

/-- What is not the name of a flag is a text. -/
theorem ofText_of_ne_flagName (h : ∀ value, t ≠ flagName value) :
    Scalar.ofText t = .text ((unquote? t).getD t) := by
  have htrue : t ≠ Text.ofString "true" := h true
  have hfalse : t ≠ Text.ofString "false" := h false
  rw [Scalar.ofText, if_neg htrue, if_neg hfalse]

theorem ofText_flagName (value : Bool) : Scalar.ofText (flagName value) = .flag value := by
  cases value <;> decide

/-- A scalar is read as what is written. -/
theorem Writes.ofText_eq (h : value.Writes written) (hvalue : value.OneLine) :
    Scalar.ofText written = value := by
  cases h with
  | flag value => exact ofText_flagName value
  | quoted hquote t =>
    rw [ofText_of_ne_flagName (quoted_ne_flagName hquote t), unquote?_quoted hquote hvalue,
      Option.getD_some]
  | bare _ hquote hflag => rw [ofText_of_ne_flagName hflag, unquote?_bare hquote, Option.getD_none]

end Scalar

/-! ## § Lines -/

namespace IsMargin

theorem blank (h : IsMargin t) : ∀ u ∈ t, CodeUnit.isBlank u = true := fun u hu => (h u hu).1

theorem linefeed_not_mem (h : IsMargin t) : 0x0A ∉ t := fun hmem => (h _ hmem).2 rfl

theorem colon_not_mem (h : IsMargin t) : 0x3A ∉ t :=
  fun hmem => absurd (h.blank _ hmem) (by decide)

end IsMargin

theorem IsIndent.isIndented (h : IsIndent t) : Line.isIndented t = true := by
  cases t with
  | nil => exact absurd h.2 (by decide)
  | cons u rest => simpa [Line.isIndented] using h.2

namespace Filler

theorem linefeed_not_mem (h : Filler written) : 0x0A ∉ written := by
  cases h with
  | blank hmargin => exact hmargin.linefeed_not_mem
  | comment hmargin ht => simpa [ht] using hmargin.linefeed_not_mem

theorem read?_eq (h : Filler written) : Line.read? written = none := by
  cases h with
  | blank hmargin => simp [Line.read?, Text.trimEnd_of_blank hmargin.blank]
  | @comment margin t hmargin ht =>
    have hcomment : Line.isComment (margin ++ 0x23 :: t.trimEnd) = true := by
      rw [Line.isComment, Text.trimStart_append hmargin.blank,
        Text.trimStart_of_head? ⟨0x23, rfl, by decide⟩]
      rfl
    rw [Line.read?, Text.trimEnd_append_cons (by decide)]
    simp [hcomment]

end Filler

section Cuts

open Line

variable {before after : Text}

/-- The start of a line up to a colon shows whether it is a comment. -/
theorem isComment_append_colon (before after after' : Text) :
    isComment (before ++ 0x3A :: after) = isComment (before ++ 0x3A :: after') := by
  have hcolon (rest : Text) : Text.trimStart (0x3A :: rest) = 0x3A :: rest :=
    Text.trimStart_of_head? ⟨0x3A, rfl, by decide⟩
  simp only [isComment, Text.trimStart, List.dropWhile_append] at hcolon ⊢
  split
  · rw [hcolon, hcolon]
    rfl
  · next hne =>
    rw [List.isEmpty_iff] at hne
    rw [List.head?_append_of_ne_nil _ hne, List.head?_append_of_ne_nil _ hne]

theorem isIndented_append_colon (before after after' : Text) :
    isIndented (before ++ 0x3A :: after) = isIndented (before ++ 0x3A :: after') := by
  cases before <;> rfl

/-- What a line with a colon means. -/
theorem Cut.read?_eq (h : Cut written before after) :
    read? written = if isComment written then none
      else some (if isIndented written then .entry before.trim (Scalar.ofText after.trim)
        else .header before.trim) := by
  obtain ⟨rfl, hfirst⟩ := h
  have hcomment := isComment_append_colon before after after.trimEnd
  have hindent := isIndented_append_colon before after after.trimEnd
  have hne : (before ++ 0x3A :: after.trimEnd).isEmpty = false := by simp
  simp only [read?, Text.trimEnd_append_cons (show CodeUnit.isBlank 0x3A = false by decide), hne,
    Bool.false_or, Text.cutAt?_append hfirst, ← hcomment, ← hindent, Text.trim_trimEnd,
    apply_ite some]

end Cuts

namespace Line

/-- A line is told from its name and from what stands before and after it. -/
theorem read?_of_isName {margin : Text} (hmargin : IsMargin margin) (hname : IsName name)
    (after : Text) : read? (margin ++ (name ++ 0x3A :: after)) =
      some (if isIndented margin then entry name (Scalar.ofText after.trim) else header name) := by
  obtain ⟨hsolid, hcolon, -, hmark⟩ := hname
  have hcut : Cut (margin ++ (name ++ 0x3A :: after)) (margin ++ name) after :=
    ⟨(List.append_assoc ..).symm, by simp [hcolon, hmargin.colon_not_mem]⟩
  -- neither an indentation nor a comment starts at the name itself
  obtain ⟨first, hfirst, hblank⟩ := hsolid.1
  obtain ⟨rest, rfl⟩ := List.head?_eq_some_iff.mp hfirst
  have hcomment : isComment (margin ++ (first :: rest ++ 0x3A :: after)) = false := by
    rw [isComment, Text.trimStart_append hmargin.blank,
      Text.trimStart_of_head? ⟨first, rfl, hblank⟩]
    simpa using hmark
  have hindent : isIndented (margin ++ (first :: rest ++ 0x3A :: after)) = isIndented margin := by
    cases margin with
    | cons u margin => rfl
    | nil =>
      have hspace : first ≠ 0x20 := by rintro rfl; exact absurd hblank (by decide)
      have htab : first ≠ 0x09 := by rintro rfl; exact absurd hblank (by decide)
      simp [isIndented, hspace, htab]
  rw [hcut.read?_eq, hcomment, hindent, hsolid.trim_append hmargin.blank, if_neg (by decide)]

theorem Writes.linefeed_not_mem (h : line.Writes written) (hline : line.OneLine) :
    0x0A ∉ written := by
  cases h with
  | header hname htrailing => simpa [htrailing.linefeed_not_mem] using hname.2.2.1
  | entry hindent hkey hgap hvalue htrailing =>
    simp [hindent.1.linefeed_not_mem, hkey.2.2.1, hgap.linefeed_not_mem,
      hvalue.linefeed_not_mem hline, htrailing.linefeed_not_mem]

/-- A line is read as what is written. -/
theorem Writes.read?_eq (h : line.Writes written) (hline : line.OneLine) :
    read? written = some line := by
  cases h with
  | header hname htrailing => exact read?_of_isName (List.forall_mem_nil _) hname _
  | @entry indent key gap written trailing value hindent hkey hgap hvalue htrailing =>
    have htrim : Text.trim (gap ++ (written ++ trailing)) = written := by
      rw [← List.append_assoc, Text.trim_append htrailing.blank,
        hvalue.solid.trim_append hgap.blank]
    rw [read?_of_isName hindent.1 hkey, if_pos hindent.isIndented, htrim, hvalue.ofText_eq hline]

end Line

/-! ## § Files -/

namespace Layout

theorem linefeed_not_mem (h : Layout lines layout) (hlines : ∀ line ∈ lines, line.OneLine) :
    ∀ written ∈ layout, 0x0A ∉ written := by
  induction h with
  | nil => exact List.forall_mem_nil _
  | filler hfiller _ ih => exact List.forall_mem_cons.mpr ⟨hfiller.linefeed_not_mem, ih hlines⟩
  | line hline _ ih =>
    obtain ⟨hfirst, hlines⟩ := List.forall_mem_cons.mp hlines
    exact List.forall_mem_cons.mpr ⟨hline.linefeed_not_mem hfirst, ih hlines⟩

theorem filterMap_read? (h : Layout lines layout) (hlines : ∀ line ∈ lines, line.OneLine) :
    layout.filterMap Line.read? = lines := by
  induction h with
  | nil => rfl
  | filler hfiller _ ih => rw [List.filterMap_cons_none hfiller.read?_eq, ih hlines]
  | line hline _ ih =>
    obtain ⟨hfirst, hlines⟩ := List.forall_mem_cons.mp hlines
    rw [List.filterMap_cons_some (hline.read?_eq hfirst), ih hlines]

end Layout

/-- A file is read as the lines that it says, whatever their layout. -/
theorem readLines_layout (h : Layout lines layout) (hlines : ∀ line ∈ lines, line.OneLine) :
    readLines (Text.join [0x0A] layout) = lines := by
  by_cases hne : layout = []
  · -- a file without lines is read as one empty line
    subst hne
    cases h
    decide
  · rw [readLines, Text.splitOn_join hne (h.linefeed_not_mem hlines), h.filterMap_read? hlines]

end Config

end ChatModeration
