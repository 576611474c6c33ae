import EnumExport.Wording.Placeholder
import EnumExport.Proofs.Text.Replace
import Mathlib

/-!
# Lines with placeholders

A line is given by its pieces, texts without a colon and placeholders of the parameters, each
placeholder followed by the end of the line or by a text that does not begin with a letter. Filling
in makes one replacement after the other, the `fillings`: longer names first, and three forms of
each name.

* A replacement does not reach over the pieces, `replaceAll_append`, so a line is filled in piece by
  piece.
* A placeholder on its own is passed over by the replacements of other placeholders and then
  replaced by its value, `replaceAll_placeholder`, by induction on the replacements. But the
  later replacements are made in the value as well: `settle`.
* Values in which no placeholder is spelled stay as they are, in whatever order the parameters come.
-/

namespace EnumExport.Wording

/-- How the name of a placeholder is written, and so how its value is put in. -/
inductive Form
  /-- as it is -/
  | plain
  /-- with a capital first letter -/
  | capital
  /-- in capitals -/
  | capitals
  deriving DecidableEq, Repr

/-- A text in a form. -/
def Form.apply : Form → String → String
  | .plain, s => s
  | .capital, s => Text.upperFirst s
  | .capitals, s => Text.upper s

/-- The placeholder of a name in a form. -/
def placeholder (f : Form) (name : String) : String := ":" ++ f.apply name

/-- A piece of a line. -/
inductive Piece
  /-- a text that stands for itself -/
  | text (s : String)
  /-- a placeholder of a parameter, a name with its value -/
  | param (f : Form) (p : String × String)
  deriving DecidableEq, Repr

/-- The line of some pieces, where something is written for each placeholder. -/
def spell (write : Form → String × String → String) : List Piece → String
  | [] => ""
  | .text s :: rest => s ++ spell write rest
  | .param f p :: rest => write f p ++ spell write rest

/-- The line as it is written. -/
def lineOf (line : List Piece) : String := spell (fun f p => placeholder f p.1) line

theorem lineOf_text (s : String) (rest : List Piece) :
    lineOf (.text s :: rest) = s ++ lineOf rest := rfl

theorem lineOf_param (f : Form) (p : String × String) (rest : List Piece) :
    lineOf (.param f p :: rest) = placeholder f p.1 ++ lineOf rest := rfl

/-- The line with each placeholder replaced by its value. -/
def filledLine (line : List Piece) : String := spell (fun f p => f.apply p.2) line

/-- Whether a name before these pieces ends here: at the end of the line, or before a text that does
not begin with a letter from `a` to `z` or from `A` to `Z`. -/
def EndsName : List Piece → Prop
  | [] => True
  | .text s :: rest =>
    match s.toList with
    | [] => EndsName rest
    | c :: _ => c.isAlpha = false
  | .param _ _ :: _ => False

/-- Whether some pieces are a line with placeholders of some parameters. -/
def IsLine (params : List (String × String)) : List Piece → Prop
  | [] => True
  | .text s :: rest => ':' ∉ s.toList ∧ IsLine params rest
  | .param _ p :: rest => p ∈ params ∧ EndsName rest ∧ IsLine params rest

/-- Names of two or more small letters. -/
structure IsName (name : String) : Prop where
  /-- there are two at least -/
  long : 2 ≤ name.toList.length
  /-- all are from `a` to `z` -/
  small : ∀ c ∈ name.toList, c.isLower = true

theorem isName_of_all {name : String} (hlong : 2 ≤ name.toList.length)
    (hsmall : name.toList.all Char.isLower = true) : IsName name :=
  ⟨hlong, List.all_eq_true.mp hsmall⟩

/-- Whether the names of some parameters are names, each of one parameter only. -/
structure AreParams (params : List (String × String)) : Prop where
  /-- each is a name -/
  names : ∀ p ∈ params, IsName p.1
  /-- none comes twice -/
  distinct : (params.map Prod.fst).Nodup

/-- Whether no placeholder of the parameters is spelled in a value, in whatever form it is put
in. -/
def SpellNothing (params : List (String × String)) : Prop :=
  ∀ p ∈ params, ∀ q ∈ params, ∀ f g : Form,
    ¬ (placeholder g q.1).toList <:+: (f.apply p.2).toList

/-! ## Small letters -/

section Letters

variable {c : Char} {name name' : String} {f g : Form}

theorem exists_of_isLower (h : c.isLower = true) : ∃ i : Fin 26, c = Char.ofNat (97 + i) := by
  simp only [Char.isLower, Bool.and_eq_true, decide_eq_true_eq, ge_iff_le, UInt32.le_iff_toNat_le]
    at h
  have hlow : 97 ≤ c.toNat := h.1
  have hhigh : c.toNat ≤ 122 := h.2
  refine ⟨⟨c.toNat - 97, by omega⟩, ?_⟩
  rw [Nat.add_sub_cancel' hlow, Char.ofNat_toNat]

/-- What is so for each small letter. -/
theorem forall_lower {p : Char → Prop} (h : ∀ i : Fin 26, p (Char.ofNat (97 + i))) :
    ∀ c : Char, c.isLower = true → p c := by
  intro c hc
  obtain ⟨i, rfl⟩ := exists_of_isLower hc
  exact h i

theorem upperChar_of_isLower : ∀ c : Char, c.isLower = true → Text.upperChar c = [c.toUpper] :=
  forall_lower (by decide)

theorem isAlpha_of_isLower : ∀ c : Char, c.isLower = true → c.isAlpha = true :=
  forall_lower (by decide)

theorem isAlpha_toUpper : ∀ c : Char, c.isLower = true → c.toUpper.isAlpha = true :=
  forall_lower (by decide)

theorem isLower_toUpper : ∀ c : Char, c.isLower = true → c.toUpper.isLower = false :=
  forall_lower (by decide)

theorem toLower_toUpper : ∀ c : Char, c.isLower = true → c.toUpper.toLower = c :=
  forall_lower (by decide)

theorem toLower_of_isLower : ∀ c : Char, c.isLower = true → c.toLower = c :=
  forall_lower (by decide)

theorem toList_upper_of_isName (h : ∀ c ∈ name.toList, c.isLower = true) :
    (Text.upper name).toList = name.toList.map Char.toUpper := by
  rw [Text.upper, String.toList_ofList]
  generalize name.toList = cs at h
  induction cs with
  | nil => rfl
  | cons c cs ih =>
    rw [List.flatMap_cons, upperChar_of_isLower c (h c List.mem_cons_self),
      ih fun d hd => h d (List.mem_cons_of_mem c hd)]
    rfl

/-- A name in a form has its letters, of which the form shows in the first two. -/
theorem IsName.apply (h : IsName name) (f : Form) :
    ∃ c d rest, name.toList = c :: d :: rest ∧
      (f.apply name).toList = match f with
        | .plain => c :: d :: rest
        | .capital => c.toUpper :: d :: rest
        | .capitals => (c :: d :: rest).map Char.toUpper := by
  obtain ⟨hlong, hsmall⟩ := h
  match hname : name.toList, hlong with
  | c :: d :: rest, _ =>
    refine ⟨c, d, rest, rfl, ?_⟩
    cases f with
    | plain => exact hname
    | capital =>
      have hc : c.isLower = true := hsmall c (by simp [hname])
      simp [Form.apply, Text.upperFirst, hname, upperChar_of_isLower c hc]
    | capitals =>
      rw [Form.apply, toList_upper_of_isName hsmall, hname]

theorem IsName.isAlpha (h : IsName name) (f : Form) :
    ∀ c ∈ (f.apply name).toList, c.isAlpha = true := by
  obtain ⟨c, d, rest, hname, hform⟩ := h.apply f
  have hsmall := h.small
  rw [hname] at hsmall
  have hplain : ∀ x ∈ c :: d :: rest, x.isAlpha = true := fun x hx =>
    isAlpha_of_isLower x (hsmall x hx)
  rw [hform]
  cases f with
  | plain => exact hplain
  | capital =>
    rw [List.forall_mem_cons]
    exact ⟨isAlpha_toUpper c (hsmall c List.mem_cons_self), fun x hx =>
      hplain x (List.mem_cons_of_mem c hx)⟩
  | capitals =>
    rw [List.forall_mem_map]
    exact fun x hx => isAlpha_toUpper x (hsmall x hx)

/-- The name can be told from each of its forms. -/
theorem IsName.toLower (h : IsName name) (f : Form) :
    (f.apply name).toList.map Char.toLower = name.toList := by
  obtain ⟨c, d, rest, hname, hform⟩ := h.apply f
  have hsmall := h.small
  rw [hname] at hsmall
  have hplain : (c :: d :: rest).map Char.toLower = c :: d :: rest := by
    rw [List.map_congr_left fun x hx => toLower_of_isLower x (hsmall x hx), List.map_id']
  rw [hform, hname]
  cases f with
  | plain => exact hplain
  | capital =>
    rw [List.map_cons] at hplain ⊢
    rw [(List.cons.inj hplain).2, toLower_toUpper c (hsmall c List.mem_cons_self)]
  | capitals =>
    have hback : ∀ x ∈ c :: d :: rest, (Char.toLower ∘ Char.toUpper) x = x := fun x hx =>
      toLower_toUpper x (hsmall x hx)
    rw [List.map_map, List.map_congr_left hback, List.map_id']

/-- The form shows in whether the first two letters are small. -/
theorem IsName.small_apply (h : IsName name) (f : Form) :
    ((f.apply name).toList.map Char.isLower).take 2 = match f with
      | .plain => [true, true]
      | .capital => [false, true]
      | .capitals => [false, false] := by
  obtain ⟨c, d, rest, hname, hform⟩ := h.apply f
  have hc : c.isLower = true := h.small c (by simp [hname])
  have hd : d.isLower = true := h.small d (by simp [hname])
  rw [hform]
  cases f with
  | plain => simp [hc, hd]
  | capital => simp [isLower_toUpper c hc, hd]
  | capitals => simp [isLower_toUpper c hc, isLower_toUpper d hd]

theorem placeholder_inj (h : IsName name) (h' : IsName name')
    (heq : placeholder f name = placeholder g name') : f = g ∧ name = name' := by
  have hforms : (f.apply name).toList = (g.apply name').toList := by
    have hchars := congrArg String.toList heq
    simpa [placeholder] using hchars
  refine ⟨?_, ?_⟩
  · have hf := h.small_apply f
    rw [hforms, h'.small_apply g] at hf
    cases f <;> cases g <;> simp_all
  · rw [← String.toList_inj, ← h.toLower f, hforms, h'.toLower g]

end Letters

/-! ## Replacements one after the other -/

/-- A text with all of some replacements made, each in what those before have left. -/
def replaceAll (rs : List (String × String)) (s : String) : String :=
  rs.foldl (fun s r => Text.replace r.1 r.2 s) s

/-- What comes to stand for a placeholder: what it is replaced by, with the later replacements made
in that. -/
def settle : List (String × String) → String → String
  | [], s => s
  | r :: rs, s => if r.1 = s then replaceAll rs r.2 else settle rs s

/-- The replacements that filling in makes. -/
def fillings (params : List (String × String)) : List (String × String) :=
  (byLength params).flatMap fun p =>
    [Form.capital, .capitals, .plain].map fun f => (placeholder f p.1, f.apply p.2)

theorem fill_eq (params : List (String × String)) (line : String) :
    fill params line = replaceAll (fillings params) line := by
  rw [fill, fillings]
  generalize byLength params = ps
  induction ps generalizing line with
  | nil => rfl
  | cons p ps ih =>
    rw [List.foldl_cons, ih, List.flatMap_cons, replaceAll, replaceAll, List.foldl_append]
    rfl

/-- Whether a replacement is one of a colon with letters behind it. -/
def IsFilling (r : String × String) : Prop :=
  ∃ m : List Char, r.1.toList = ':' :: m ∧ ∀ c ∈ m, c.isAlpha = true

/-- Whether a text is empty or begins with a character that is neither a letter nor a colon. -/
def StartsApart (s : String) : Prop :=
  ∀ c, s.toList.head? = some c → c.isAlpha = false ∧ c ≠ ':'

section Replacements

variable {r : String × String} {rs : List (String × String)} {s t : String}

theorem toList_replace {m : List Char} (h : r.1.toList = ':' :: m) :
    (Text.replace r.1 r.2 s).toList = Text.replaceNonempty ':' m r.2.toList s.toList := by
  rw [Text.replace, String.toList_ofList, h]
  rfl

theorem colon_not_mem {m : List Char} (h : ∀ c ∈ m, c.isAlpha = true) : ':' ∉ m := by
  intro hmem
  exact absurd (h ':' hmem) (by decide)

/-- A replacement is made on both sides of such a boundary, and leaves it one. -/
theorem replace_append (hr : IsFilling r) (ht : StartsApart t) :
    Text.replace r.1 r.2 (s ++ t) = Text.replace r.1 r.2 s ++ Text.replace r.1 r.2 t ∧
      StartsApart (Text.replace r.1 r.2 t) := by
  obtain ⟨m, hm, hletters⟩ := hr
  refine ⟨?_, fun c hc => ?_⟩
  · have hapart : ∀ c, t.toList.head? = some c → c ∉ m := by
      intro c hc hmem
      exact absurd ((ht c hc).1.symm.trans (hletters c hmem)) (by decide)
    rw [← String.toList_inj, String.toList_append, toList_replace hm, toList_replace hm,
      toList_replace hm, String.toList_append, Text.replaceNonempty_append hapart]
  · rw [toList_replace hm] at hc
    cases hchars : t.toList with
    | nil =>
      rw [hchars, Text.replaceNonempty] at hc
      cases hc
    | cons d rest =>
      have hd := ht d (by rw [hchars, List.head?_cons])
      rw [hchars, Text.head?_replaceNonempty hd.2] at hc
      exact Option.some.inj hc ▸ hd

theorem replaceAll_append (hrs : ∀ r ∈ rs, IsFilling r) (ht : StartsApart t) :
    replaceAll rs (s ++ t) = replaceAll rs s ++ replaceAll rs t := by
  induction rs generalizing s t with
  | nil => rfl
  | cons r rs ih =>
    obtain ⟨happend, happart⟩ := replace_append (s := s) (hrs r List.mem_cons_self) ht
    have hrest := ih (s := Text.replace r.1 r.2 s) (fun q hq => hrs q (List.mem_cons_of_mem r hq))
      happart
    rw [replaceAll, List.foldl_cons, happend]
    exact hrest

/-- A text without a colon is passed over. -/
theorem replaceAll_text_append (hrs : ∀ r ∈ rs, IsFilling r) (hs : ':' ∉ s.toList) :
    replaceAll rs (s ++ t) = s ++ replaceAll rs t := by
  induction rs generalizing t with
  | nil => rfl
  | cons r rs ih =>
    obtain ⟨m, hm, -⟩ := hrs r List.mem_cons_self
    have hreplace : Text.replace r.1 r.2 (s ++ t) = s ++ Text.replace r.1 r.2 t := by
      rw [← String.toList_inj, String.toList_append, toList_replace hm, toList_replace hm,
        String.toList_append, Text.replaceNonempty_append_of_not_mem hs]
    rw [replaceAll, List.foldl_cons, hreplace]
    exact ih fun q hq => hrs q (List.mem_cons_of_mem r hq)

theorem replace_self (hr : IsFilling r) : Text.replace r.1 r.2 r.1 = r.2 := by
  obtain ⟨m, hm, -⟩ := hr
  have hdrop : Text.dropPart? (':' :: m) (':' :: m) = some [] := by
    have happend := Text.dropPart?_append (':' :: m) []
    rwa [List.append_nil] at happend
  rw [← String.toList_inj, toList_replace hm, hm, Text.replaceNonempty_of_some hdrop,
    Text.replaceNonempty, List.append_nil]

/-- A replacement passes over a placeholder that is another one and no longer. -/
theorem replace_of_ne {m : List Char} (hr : IsFilling r) (hs : s.toList = ':' :: m) (hm : ':' ∉ m)
    (hne : r.1 ≠ s) (hlength : s.toList.length ≤ r.1.toList.length) :
    Text.replace r.1 r.2 s = s := by
  obtain ⟨k, hk, -⟩ := hr
  have hdrop : Text.dropPart? (':' :: k) (':' :: m) = none := by
    cases hdrop : Text.dropPart? (':' :: k) (':' :: m) with
    | none => rfl
    | some rest =>
      have hrest := Text.dropPart?_length hdrop
      rw [← hk, ← hs] at hrest
      obtain rfl : rest = [] := List.length_eq_zero_iff.mp (by omega)
      have hsame := Text.eq_append_of_dropPart? hdrop
      rw [List.append_nil, ← hk, ← hs, String.toList_inj] at hsame
      exact absurd hsame.symm hne
  rw [← String.toList_inj, toList_replace hk, hs, Text.replaceNonempty_of_none hdrop,
    Text.replaceNonempty_of_not_mem hm]

/-- A placeholder is passed over until it is replaced. -/
theorem replaceAll_placeholder {m : List Char} (hrs : ∀ r ∈ rs, IsFilling r)
    (hsorted : rs.Pairwise fun r q => q.1.toList.length ≤ r.1.toList.length)
    (hs : s.toList = ':' :: m) (hm : ':' ∉ m) (hmem : s ∈ rs.map Prod.fst) :
    replaceAll rs s = settle rs s := by
  induction rs with
  | nil => cases hmem
  | cons r rs ih =>
    obtain ⟨hlonger, hrest⟩ := List.pairwise_cons.mp hsorted
    rw [replaceAll, List.foldl_cons, settle]
    split
    · next heq =>
      rw [← heq, replace_self (hrs r List.mem_cons_self)]
      rfl
    · next hne =>
      rw [List.map_cons, List.mem_cons] at hmem
      have hlater : s ∈ rs.map Prod.fst := hmem.resolve_left fun heq => hne heq.symm
      obtain ⟨q, hq, rfl⟩ := List.mem_map.mp hlater
      rw [replace_of_ne (hrs r List.mem_cons_self) hs hm hne (hlonger q hq)]
      exact ih (fun q hq => hrs q (List.mem_cons_of_mem r hq)) hrest hlater

/-- A text in which no placeholder is spelled stays as it is. -/
theorem replaceAll_of_not_infix (hrs : ∀ r ∈ rs, IsFilling r)
    (h : ∀ r ∈ rs, ¬ r.1.toList <:+: s.toList) : replaceAll rs s = s := by
  induction rs with
  | nil => rfl
  | cons r rs ih =>
    obtain ⟨m, hm, -⟩ := hrs r List.mem_cons_self
    have hinfix := h r List.mem_cons_self
    rw [hm] at hinfix
    have hsame : Text.replace r.1 r.2 s = s := by
      rw [← String.toList_inj, toList_replace hm, Text.replaceNonempty_of_not_infix hinfix]
    rw [replaceAll, List.foldl_cons, hsame]
    exact ih (fun q hq => hrs q (List.mem_cons_of_mem r hq)) fun q hq =>
      h q (List.mem_cons_of_mem r hq)

/-- What is settled comes from a replacement of the placeholder. -/
theorem settle_eq (hmem : s ∈ rs.map Prod.fst) :
    ∃ r later, r ∈ rs ∧ r.1 = s ∧ later ⊆ rs ∧ settle rs s = replaceAll later r.2 := by
  induction rs with
  | nil => cases hmem
  | cons r rs ih =>
    rw [settle]
    split
    · next heq =>
      exact ⟨r, rs, List.mem_cons_self, heq, List.subset_cons_self r rs, rfl⟩
    · next hne =>
      rw [List.map_cons, List.mem_cons] at hmem
      obtain ⟨q, later, hq, hqs, hlater, hsettle⟩ := ih (hmem.resolve_left fun heq => hne heq.symm)
      exact ⟨q, later, List.mem_cons_of_mem r hq, hqs,
        List.subset_cons_of_subset r hlater, hsettle⟩

end Replacements

/-! ## The fillings -/

section Fillings

variable {params params' : List (String × String)} {f : Form} {p : String × String}

theorem mem_fillings {r : String × String} :
    r ∈ fillings params ↔ ∃ p ∈ params, ∃ f : Form, r = (placeholder f p.1, f.apply p.2) := by
  rw [fillings, List.mem_flatMap]
  simp only [(byLength_perm params).mem_iff, List.mem_map]
  constructor
  · rintro ⟨p, hp, f, -, rfl⟩
    exact ⟨p, hp, f, rfl⟩
  · rintro ⟨p, hp, f, rfl⟩
    exact ⟨p, hp, f, by cases f <;> simp, rfl⟩

theorem toList_placeholder (f : Form) (name : String) :
    (placeholder f name).toList = ':' :: (f.apply name).toList := by
  rw [placeholder, String.toList_append]
  rfl

theorem isFilling_of_mem (h : AreParams params) :
    ∀ r ∈ fillings params, IsFilling r := by
  intro r hr
  obtain ⟨p, hp, f, rfl⟩ := mem_fillings.mp hr
  exact ⟨_, toList_placeholder f p.1, (h.names p hp).isAlpha f⟩

theorem length_placeholder {name : String} (h : IsName name) (f : Form) :
    (placeholder f name).toList.length = name.toList.length + 1 := by
  rw [toList_placeholder, List.length_cons, ← h.toLower f, List.length_map]

/-- Longer placeholders are replaced first. -/
theorem fillings_sorted (h : AreParams params) :
    (fillings params).Pairwise fun r q => q.1.toList.length ≤ r.1.toList.length := by
  have hbyLength : (byLength params).Pairwise fun p q => q.1.length ≤ p.1.length := by
    have hsorted : (byLength params).Pairwise fun p q => decide (q.1.length ≤ p.1.length) = true :=
      List.pairwise_mergeSort
        (by simp only [decide_eq_true_eq]; intros; omega)
        (by simp only [Bool.or_eq_true, decide_eq_true_eq]; intros; omega) params
    exact hsorted.imp fun hle => of_decide_eq_true hle
  have hlength : ∀ p ∈ byLength params, ∀ f : Form,
      (placeholder f p.1).toList.length = p.1.length + 1 := by
    intro p hp f
    exact length_placeholder (h.names p ((byLength_perm params).mem_iff.mp hp)) f
  rw [fillings, List.pairwise_flatMap]
  refine ⟨fun p hp => ?_, ?_⟩
  · rw [List.pairwise_map]
    exact List.pairwise_of_forall fun f g =>
      Nat.le_of_eq (by rw [hlength p hp f, hlength p hp g])
  · refine hbyLength.imp_of_mem fun {p q} hp hq hle r hr s hs => ?_
    obtain ⟨f, -, rfl⟩ := List.mem_map.mp hr
    obtain ⟨g, -, rfl⟩ := List.mem_map.mp hs
    rw [hlength p hp, hlength q hq]
    omega

theorem replaceAll_fillings (h : AreParams params) (hp : p ∈ params) (f : Form) :
    replaceAll (fillings params) (placeholder f p.1) =
      settle (fillings params) (placeholder f p.1) :=
  replaceAll_placeholder (isFilling_of_mem h) (fillings_sorted h) (toList_placeholder f p.1)
    (colon_not_mem ((h.names p hp).isAlpha f))
    (List.mem_map.mpr ⟨_, mem_fillings.mpr ⟨p, hp, f, rfl⟩, rfl⟩)

/-- Where values spell no placeholder, a placeholder comes to its value. -/
theorem settle_fillings (h : AreParams params) (hnothing : SpellNothing params) (hp : p ∈ params)
    (f : Form) : settle (fillings params) (placeholder f p.1) = f.apply p.2 := by
  obtain ⟨r, later, hr, hplaceholder, hlater, hsettle⟩ :=
    settle_eq (List.mem_map.mpr ⟨_, mem_fillings.mpr ⟨p, hp, f, rfl⟩, rfl⟩)
  obtain ⟨q, hq, g, rfl⟩ := mem_fillings.mp hr
  obtain ⟨rfl, hname⟩ := placeholder_inj (h.names q hq) (h.names p hp) hplaceholder
  obtain rfl : q = p := List.inj_on_of_nodup_map h.distinct hq hp hname
  rw [hsettle]
  refine replaceAll_of_not_infix (fun s hs => isFilling_of_mem h s (hlater hs)) fun s hs => ?_
  obtain ⟨q', hq', g', rfl⟩ := mem_fillings.mp (hlater hs)
  exact hnothing q hq q' hq' g g'

/-- What follows a placeholder begins with no letter and no colon. -/
theorem startsApart_of_endsName {line : List Piece} (hends : EndsName line)
    (hline : IsLine params line) : StartsApart (lineOf line) := by
  induction line with
  | nil =>
    intro c hc
    cases hc
  | cons piece rest ih =>
    cases piece with
    | param f p => exact hends.elim
    | text s =>
      obtain ⟨hcolon, hrest⟩ := hline
      rw [EndsName] at hends
      intro c hc
      rw [lineOf_text, String.toList_append] at hc
      split at hends
      · next hempty =>
        rw [hempty, List.nil_append] at hc
        exact ih hends hrest c hc
      · next d cs hchars =>
        rw [hchars] at hc hcolon
        obtain rfl : d = c := Option.some.inj hc
        exact ⟨hends, fun heq => hcolon (heq ▸ List.mem_cons_self)⟩

/-- A line is filled in piece by piece. -/
theorem fill_lineOf (h : AreParams params) {line : List Piece} (hline : IsLine params line) :
    fill params (lineOf line) =
      spell (fun f p => settle (fillings params) (placeholder f p.1)) line := by
  rw [fill_eq]
  have hfillings := isFilling_of_mem h
  induction line with
  | nil =>
    refine replaceAll_of_not_infix hfillings fun r hr hinfix => ?_
    obtain ⟨m, hm, -⟩ := hfillings r hr
    rw [hm] at hinfix
    exact absurd (List.infix_nil.mp hinfix) (List.cons_ne_nil _ _)
  | cons piece rest ih =>
    cases piece with
    | text s =>
      obtain ⟨hcolon, hrest⟩ := hline
      rw [lineOf_text, replaceAll_text_append hfillings hcolon, spell]
      exact congrArg (s ++ ·) (ih hrest)
    | param f p =>
      obtain ⟨hp, hends, hrest⟩ := hline
      rw [lineOf_param, replaceAll_append hfillings (startsApart_of_endsName hends hrest), spell,
        replaceAll_fillings h hp]
      exact congrArg (settle (fillings params) (placeholder f p.1) ++ ·) (ih hrest)

theorem AreParams.perm (h : AreParams params) (hperm : params'.Perm params) :
    AreParams params' :=
  ⟨fun p hp => h.names p (hperm.mem_iff.mp hp), (hperm.map Prod.fst).nodup_iff.mpr h.distinct⟩

theorem SpellNothing.perm (h : SpellNothing params) (hperm : params'.Perm params) :
    SpellNothing params' := fun p hp q hq =>
  h p (hperm.mem_iff.mp hp) q (hperm.mem_iff.mp hq)

theorem IsLine.perm {line : List Piece} (h : IsLine params line) (hperm : params'.Perm params) :
    IsLine params' line := by
  induction line with
  | nil => trivial
  | cons piece rest ih =>
    cases piece with
    | text s => exact ⟨h.1, ih h.2⟩
    | param f p => exact ⟨hperm.mem_iff.mpr h.1, h.2.1, ih h.2.2⟩

/-- Two ways to write the placeholders of a line are the same if they are for its parameters. -/
theorem spell_congr {write write' : Form → String × String → String} {line : List Piece}
    (hline : IsLine params line) (h : ∀ f, ∀ p ∈ params, write f p = write' f p) :
    spell write line = spell write' line := by
  induction line with
  | nil => rfl
  | cons piece rest ih =>
    cases piece with
    | text s => exact congrArg (s ++ ·) (ih hline.2)
    | param f p =>
      rw [spell, spell, h f p hline.1, ih hline.2.2]

end Fillings

/-- **Filling in.** Each placeholder of a line, whatever stands around it, is replaced by its value
in the placeholder's form, in which the replacements that come later are made again. So where no
value spells a placeholder, each placeholder is replaced by just its value, and the order of the
parameters does not matter. -/
theorem fill_of_line {params : List (String × String)} (h : AreParams params) :
    (∀ line, IsLine params line → fill params (lineOf line) =
      spell (fun f p => settle (fillings params) (placeholder f p.1)) line) ∧
    (SpellNothing params → ∀ params' : List (String × String), params'.Perm params → ∀ line,
      IsLine params line → fill params' (lineOf line) = filledLine line) := by
  refine ⟨fun line hline => fill_lineOf h hline, fun hnothing params' hperm line hline => ?_⟩
  rw [fill_lineOf (h.perm hperm) (hline.perm hperm)]
  refine spell_congr hline fun f p hp => ?_
  exact settle_fillings (h.perm hperm) (hnothing.perm hperm) (hperm.mem_iff.mpr hp) f

/-- A time and a name; the one holds a colon, but no placeholder. -/
def visitParams : List (String × String) := [("time", "10:30"), ("user", "ada")]

/-- The line `:User, at :time`. -/
def visitLine : List Piece :=
  [.param .capital ("user", "ada"), .text ", at ", .param .plain ("time", "10:30")]

theorem fill_visit :
    AreParams visitParams ∧ SpellNothing visitParams ∧ IsLine visitParams visitLine ∧
      lineOf visitLine = ":User, at :time" ∧
      fill visitParams.reverse (lineOf visitLine) = "Ada, at 10:30" := by
  have hparams : AreParams visitParams := by
    refine ⟨?_, by decide⟩
    simp only [visitParams, List.forall_mem_cons]
    exact ⟨isName_of_all (by decide) (by decide), isName_of_all (by decide) (by decide), by simp⟩
  have hnothing : SpellNothing visitParams := by
    simp only [SpellNothing, visitParams, List.forall_mem_cons]
    refine ⟨⟨?_, ?_, by simp⟩, ⟨?_, ?_, by simp⟩, by simp⟩
    all_goals
      intro f g
      cases f <;> cases g <;> decide +kernel
  have hline : IsLine visitParams visitLine := by
    refine ⟨by simp [visitParams], ?_, by decide, by simp [visitParams], trivial, trivial⟩
    simp [EndsName]
  refine ⟨hparams, hnothing, hline, by decide +kernel, ?_⟩
  rw [(fill_of_line hparams).2 hnothing _ (List.reverse_perm _) _ hline]
  decide +kernel

/-- A name that is the placeholder of another parameter. -/
def echoParams : List (String × String) := [("user", ":name"), ("name", "Bob")]

/-- The value of the first parameter is filled in once more, unless the second one comes first. -/
theorem value_read_again :
    AreParams echoParams ∧ IsLine echoParams [.param .plain ("user", ":name")] ∧
      filledLine [.param .plain ("user", ":name")] = ":name" ∧
      fill echoParams (lineOf [.param .plain ("user", ":name")]) = "Bob" ∧
      fill echoParams.reverse (lineOf [.param .plain ("user", ":name")]) = ":name" := by
  refine ⟨⟨?_, by decide⟩, ⟨by simp [echoParams], trivial, trivial⟩, by decide +kernel, ?_, ?_⟩
  · simp only [echoParams, List.forall_mem_cons]
    exact ⟨isName_of_all (by decide) (by decide), isName_of_all (by decide) (by decide), by simp⟩
  · cbv
  · cbv

end EnumExport.Wording
