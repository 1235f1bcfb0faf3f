/-
The text of a header: strings as their scalars, what the code asks of Foundation about them, `HTTPURL` and
the relative path of a URL. On ASCII text all of it is plain list processing.
-/
import Mathlib.Data.List.Forall2
import VpnSs.Lib.Lines
import VpnSs.Lib.Regex
import VpnSs.Swift.Data

namespace VpnSs.NEKit

open VpnSs.Swift VpnSs.Lines

/-! ## Text as scalars -/

/-- The scalars of a text. -/
abbrev Scalars := List Char

/-- `String(data:encoding:)` for UTF-8. -/
def decodeUTF8 (d : Data) : Option Scalars := d.toByteArray.utf8Decode?.map Array.toList

/-- `data(using:)` for UTF-8. -/
def encodeUTF8 (t : Scalars) : Data := t.flatMap String.utf8EncodeChar

theorem decodeUTF8_encodeUTF8 (t : Scalars) : decodeUTF8 (encodeUTF8 t) = some t := by
  have h : (encodeUTF8 t).toByteArray = t.utf8Encode := rfl
  rw [decodeUTF8, h, List.utf8Decode?_utf8Encode, Option.map_some]

/-- The characters of a text whose characters are single scalars. -/
def plain (t : Scalars) : Text := t.map fun c => ⟨[c]⟩

def ASCII (t : Scalars) : Prop := ∀ c ∈ t, c.toNat < 128

instance ASCII.decidable (t : Scalars) : Decidable (ASCII t) := List.decidableBAll _ t

/-- The characters of an ASCII text: a line end is one, and any other scalar. -/
def clusters : Scalars → List Scalars
  | [] => []
  | [x] => [[x]]
  | x :: y :: t => if x = '\r' ∧ y = '\n' then [x, y] :: clusters t else [x] :: clusters (y :: t)

/-- `CharacterSet.whitespaces`: the space separators, and the tabulation. -/
def whitespaces (c : Char) : Bool :=
  c = '\t' || c = ' ' || c = '\u00a0' || c = '\u1680' || ('\u2000' ≤ c && c ≤ '\u200a') || c = '\u202f' ||
    c = '\u205f' || c = '\u3000'

/-- `uppercased()`, as far as the result can be `"CONNECT"`: no other scalars give letters of it. -/
def uppercased (t : Scalars) : Scalars := t.map Char.toUpper

/-! ## Foundation -/

/-- The host and the port of a URL. -/
structure URLParts where
  host : Option Scalars
  port : Option Int
  deriving DecidableEq, Repr

/-- What the code asks of Foundation: where the characters of a text are cut, and what they are as characters;
a text with its case folded; the word characters and the digits of regular expressions; the URL of a text; and
what is in the range of the first units of UTF-16. -/
structure Foundation where
  graphemes : Scalars → List Scalars
  graphemes_ascii : ∀ t, ASCII t → graphemes t = clusters t
  characters : Scalars → Text
  foldCase : Scalars → Scalars
  foldCase_ascii : ∀ t, ASCII t → foldCase t = t.map Char.toLower
  isWord : Char → Bool
  isDigit : Char → Bool
  url : Scalars → Option URLParts
  utf16Prefix : Nat → Scalars → Scalars
  utf16Prefix_ascii : ∀ n t, ASCII t → utf16Prefix n t = t.take n

namespace Foundation

/-- A Foundation that takes every text for ASCII, and gives one URL for each. -/
def fixed (u : URLParts) : Foundation where
  graphemes := clusters
  graphemes_ascii _ _ := rfl
  characters := plain
  foldCase t := t.map Char.toLower
  foldCase_ascii _ _ := rfl
  isWord c := c.isAlphanum || c = '_'
  isDigit := Char.isDigit
  url _ := some u
  utf16Prefix n t := t.take n
  utf16Prefix_ascii _ _ _ := rfl

variable (f : Foundation)

/-- `components(separatedBy:)` of one character. -/
def components (t separator : Scalars) : List Scalars := ((f.graphemes t).splitOn separator).map List.flatten

/-- `split(separator: ":", maxSplits: 1, omittingEmptySubsequences: false)`, when there are two parts. -/
def splitColon (t : Scalars) : Option (Scalars × Scalars) :=
  let cs := f.graphemes t
  if [':'] ∈ cs then some ((cs.takeWhile (· != [':'])).flatten, (cs.dropWhile (· != [':'])).tail.flatten) else none

/-- `caseInsensitiveCompare(_:) == .orderedSame` -/
def caseInsensitiveSame (s t : Scalars) : Bool := f.foldCase s == f.foldCase t

/-! ## Regular expressions -/

/-- A letter of a regular expression, in either case. -/
def letter (c x : Char) : Bool := f.foldCase [x] == [c]

def lineTerminator (c : Char) : Bool := ('\n' ≤ c && c ≤ '\r') || c = '\u0085' || c = '\u2028' || c = '\u2029'

/-- `.` -/
def dot (c : Char) : Bool := !lineTerminator c

/-- `$`: the end, or the line end before it. -/
def lineEnd : Scalars → Bool
  | [] => true
  | [c] => lineTerminator c
  | t => t = ['\r', '\n']

/-- The letters of a string, one after the other. -/
def word (s : String) : Regex Char := .word (s.toList.map f.letter)

/-- `^(?:(?:(https?):\/\/)?([\w\.-]+)(?::(\d+))?)?(?:\/(.*))?$` without its beginning. -/
def urlreg : Regex Char :=
  .seq
    (.optional (.seq
      (.optional (.seq (.group 1 (.seq (f.word "http") (.optional (.symbol (f.letter 's'))))) (f.word "://")))
      (.seq (.group 2 (.plus fun c => f.isWord c || c = '.' || c = '-'))
        (.optional (.seq (.symbol (f.letter ':')) (.group 3 (.plus f.isDigit)))))))
    (.seq (.optional (.seq (.symbol (f.letter '/')) (.group 4 (.star dot)))) (.atEnd lineEnd))

/-- `HTTPURL(string:)`: the expression is anchored at the beginning of the text. -/
def httpURL (url : Scalars) : Option URLParts :=
  (f.urlreg.matchHere url).map fun groups =>
    { host := groups.lookup 2, port := (groups.lookup 3).bind fun port => int (plain port) }

/-- `http.?:\/\/.*?(\/.*)` -/
def relativePathRegex : Regex Char :=
  .seq (f.word "http") (.seq (.optional (.symbol dot)) (.seq (f.word "://")
    (.seq (.lazyStar dot) (.group 1 (.seq (.symbol (f.letter '/')) (.star dot))))))

/-- `HTTPHeader.URL.matchRelativePath`: the range that is searched counts characters where units are meant. -/
def matchRelativePath (url : Scalars) : Option Scalars :=
  (f.relativePathRegex.firstMatch (f.utf16Prefix (f.graphemes url).length url)).bind fun groups => groups.lookup 1

end Foundation

/-! ## ASCII text -/

theorem ASCII.of_subset {s t : Scalars} (ht : ASCII t) (h : s ⊆ t) : ASCII s := fun c hc => ht c (h hc)

theorem clusters_of_unbroken {t : Scalars} (h : ¬ ['\r', '\n'] <:+: t) : clusters t = t.map fun c => [c] := by
  fun_induction clusters t with
  | case1 => rfl
  | case2 x => rfl
  | case3 x y t hxy ih =>
    obtain ⟨rfl, rfl⟩ := hxy
    exact absurd ⟨[], t, rfl⟩ h
  | case4 x y t hxy ih =>
    rw [List.map_cons, ih fun hin => h (hin.trans (List.suffix_cons x _).isInfix)]

/-- Text cut at the line ends. -/
theorem splitOn_clusters_crlf (t : Scalars) :
    ((clusters t).splitOn ['\r', '\n']).map List.flatten = cut '\r' '\n' t := by
  fun_induction clusters t with
  | case1 => rfl
  | case2 x => rw [cut]; simp [List.splitOn_cons_eq_if_modifyHead]
  | case3 x y t hxy ih =>
    rw [cut, if_pos hxy, ← ih, hxy.1, hxy.2, List.splitOn_cons_eq_if_modifyHead, if_pos (by rfl)]
    rfl
  | case4 x y t hxy ih =>
    rw [cut, if_neg hxy, ← ih, List.splitOn_cons_eq_if_modifyHead, if_neg (by simp)]
    rcases hcs : (clusters (y :: t)).splitOn ['\r', '\n'] with _ | ⟨l, ls⟩
    · exact absurd hcs (List.splitOn_ne_nil _ _)
    · rfl

/-- Text cut at a character that is no part of a line end. -/
theorem splitOn_clusters {c : Char} (hr : c ≠ '\r') (hn : c ≠ '\n') (t : Scalars) :
    ((clusters t).splitOn [c]).map List.flatten = t.splitOn c := by
  fun_induction clusters t with
  | case1 => rfl
  | case2 x =>
    simp only [List.splitOn_cons_eq_if_modifyHead]
    by_cases hx : x = c <;> simp [hx]
  | case3 x y t hxy ih =>
    obtain ⟨rfl, rfl⟩ := hxy
    rw [List.splitOn_cons_eq_if_modifyHead, if_neg (by simp), List.splitOn_cons_eq_if_modifyHead,
      if_neg (by simpa using hr.symm), List.splitOn_cons_eq_if_modifyHead, if_neg (by simpa using hn.symm), ← ih]
    rcases hcs : (clusters t).splitOn [c] with _ | ⟨l, ls⟩
    · exact absurd hcs (List.splitOn_ne_nil _ _)
    · rfl
  | case4 x y t hxy ih =>
    rw [List.splitOn_cons_eq_if_modifyHead, List.splitOn_cons_eq_if_modifyHead, ← ih]
    by_cases hx : x = c
    · rw [if_pos (by simp [hx]), if_pos (by simp [hx])]
      rfl
    · rw [if_neg (by simpa using hx), if_neg (by simpa using hx)]
      rcases hcs : (clusters (y :: t)).splitOn [c] with _ | ⟨l, ls⟩
      · exact absurd hcs (List.splitOn_ne_nil _ _)
      · rfl

/-- What is a letter in lower case ends no line. -/
theorem dot_of_toLower {c d : Char} (hlow : 97 ≤ d.toNat) (hhigh : d.toNat < 128) (h : c.toLower = d) :
    Foundation.dot c = true := by
  have hc : 65 ≤ c.val.toNat ∧ c.val.toNat < 128 := by
    have hd : 97 ≤ d.val.toNat := hlow
    have hd' : d.val.toNat < 128 := hhigh
    unfold Char.toLower at h
    split at h
    · rename_i hupper
      have hle : c.val.toNat ≤ 90 := hupper.2
      exact ⟨hupper.1, by omega⟩
    · rw [h]
      exact ⟨by omega, hd'⟩
  have hle : ¬ c ≤ '\r' := by
    intro h
    have hle : c.val.toNat ≤ 13 := h
    omega
  have hne : ∀ x : Char, 128 ≤ x.val.toNat → c ≠ x := by
    rintro x hx rfl
    omega
  simp [Foundation.dot, Foundation.lineTerminator, hle, hne '\u0085' (by decide), hne '\u2028' (by decide),
    hne '\u2029' (by decide)]

/-- A scalar below the letters is no letter in lower case. -/
theorem toLower_eq_iff {c d : Char} (hd : d.toNat < 65) : c.toLower = d ↔ c = d := by
  unfold Char.toLower
  split
  · rename_i hc
    have hlow : 65 ≤ c.val.toNat := hc.1
    have hhigh : c.val.toNat ≤ 90 := hc.2
    have hd : d.val.toNat < 65 := hd
    constructor
    · intro h
      have hval : c.val + 32 = d.val := congrArg Char.val h
      have := congrArg UInt32.toNat hval
      rw [UInt32.toNat_add] at this
      simp only [UInt32.reduceToNat] at this
      omega
    · rintro rfl
      omega
  · exact Iff.rfl

/-- ASCII text within one line. -/
structure Inline (t : Scalars) : Prop where
  ascii : ASCII t
  unbroken : ¬ ['\r', '\n'] <:+: t

theorem Inline.part {s t : Scalars} (ht : Inline t) (h : s <:+: t) : Inline s :=
  ⟨ht.ascii.of_subset h.subset, fun hin => ht.unbroken (hin.trans h)⟩

/-- Two lines around a symbol that ends none. -/
theorem Inline.append_cons {s t : Scalars} (hs : Inline s) (ht : Inline t) {c : Char} (hc : c.toNat < 128)
    (hr : c ≠ '\r') (hn : c ≠ '\n') : Inline (s ++ c :: t) := by
  refine ⟨fun x hx => ?_, not_infix_append_cons hr hn hs.unbroken ht.unbroken⟩
  rcases List.mem_append.1 hx with hx | hx
  · exact hs.ascii x hx
  · rcases List.mem_cons.1 hx with rfl | hx
    · exact hc
    · exact ht.ascii x hx

namespace Foundation

variable (f : Foundation) {t : Scalars}

theorem graphemes_inline (ht : Inline t) : f.graphemes t = t.map fun c => [c] := by
  rw [f.graphemes_ascii t ht.ascii, clusters_of_unbroken ht.unbroken]

theorem components_ascii (ht : ASCII t) {c : Char} (hr : c ≠ '\r') (hn : c ≠ '\n') :
    f.components t [c] = t.splitOn c := by
  rw [components, f.graphemes_ascii t ht, splitOn_clusters hr hn]

theorem components_crlf (ht : ASCII t) : f.components t ['\r', '\n'] = cut '\r' '\n' t := by
  rw [components, f.graphemes_ascii t ht, splitOn_clusters_crlf]

theorem splitColon_inline (ht : Inline t) :
    f.splitColon t =
      if ':' ∈ t then some (t.takeWhile (· != ':'), (t.dropWhile (· != ':')).tail) else none := by
  have hsingle (s : Scalars) : (s.map fun c => [c]).flatten = s := by
    induction s with
    | nil => rfl
    | cons c s ih => rw [List.map_cons, List.flatten_cons, ih]; rfl
  have hfun : ((· != [':']) ∘ fun c : Char => [c]) = (· != ':') := by
    funext c
    simp [bne, beq_eq_decide]
  have hmem : [':'] ∈ t.map (fun c => [c]) ↔ ':' ∈ t := by simp
  rw [splitColon, f.graphemes_inline ht]
  simp only [hmem, List.takeWhile_map, List.dropWhile_map, ← List.map_tail, hfun, hsingle]

theorem letter_ascii (c : Char) {x : Char} (hx : x.toNat < 128) : f.letter c x = (x.toLower == c) := by
  rw [letter, f.foldCase_ascii [x] (by simpa [ASCII] using hx)]
  simp [beq_eq_decide]

/-! ## The relative path of a URL -/

theorem matchRelativePath_inline (ht : Inline t) :
    f.matchRelativePath t = (f.relativePathRegex.firstMatch t).bind fun groups => groups.lookup 1 := by
  have hlen : (f.graphemes t).length = t.length := by rw [f.graphemes_inline ht, List.length_map]
  rw [matchRelativePath, hlen, f.utf16Prefix_ascii _ _ ht.ascii, List.take_length]

/-- What a match of the expression has as its group: a slash, and what comes behind it. -/
theorem group_of_relativePathRegex {c : Regex.Captures Char} {t s : Scalars}
    (h : (c, s) ∈ f.relativePathRegex.ends [] t) :
    ∃ slash rest, c = [(1, slash :: rest)] ∧ f.letter '/' slash = true ∧ slash :: rest <:+: t := by
  have hpart := (Regex.mem_ends h).2
  obtain ⟨⟨c₁, t₁⟩, h₁, h⟩ := List.mem_flatMap.1 h
  obtain ⟨⟨c₂, t₂⟩, h₂, h⟩ := List.mem_flatMap.1 h
  obtain ⟨⟨c₃, t₃⟩, h₃, h⟩ := List.mem_flatMap.1 h
  obtain ⟨⟨c₄, t₄⟩, h₄, h⟩ := List.mem_flatMap.1 h
  obtain ⟨⟨c₅, t₅⟩, h₅, heq⟩ := List.mem_map.1 h
  obtain rfl : c₁ = [] := Regex.captures_of_mem_ends (Regex.groupless_word _) h₁
  obtain rfl : c₂ = [] := Regex.captures_of_mem_ends rfl h₂
  obtain rfl : c₃ = [] := Regex.captures_of_mem_ends (Regex.groupless_word _) h₃
  obtain rfl : c₄ = [] := Regex.captures_of_mem_ends rfl h₄
  obtain rfl : c₅ = [] := Regex.captures_of_mem_ends rfl h₅
  cases heq
  obtain ⟨⟨c₆, t₆⟩, h₆, h₅⟩ := List.mem_flatMap.1 h₅
  cases t₄ with
  | nil => cases h₆
  | cons slash u =>
    rw [Regex.ends_symbol_cons] at h₆
    split at h₆
    · rename_i hslash
      cases List.mem_singleton.1 h₆
      have hle := (Regex.mem_ends h₅).1.length_le
      have htake : (slash :: t₆).take ((slash :: t₆).length - t₅.length) = slash :: t₆.take (t₆.length - t₅.length) := by
        rw [List.length_cons, Nat.succ_sub hle, List.take_succ_cons]
      rw [htake] at hpart ⊢
      exact ⟨slash, _, rfl, hslash, (hpart _ List.mem_cons_self).resolve_left List.not_mem_nil⟩
    · cases h₆

/-- The relative path is a part of the URL that begins with a slash. -/
theorem matchRelativePath_eq_some {p : Scalars} (ht : Inline t) (h : f.matchRelativePath t = some p) :
    ∃ rest, p = '/' :: rest ∧ p <:+: t := by
  rw [f.matchRelativePath_inline ht, Option.bind_eq_some_iff] at h
  obtain ⟨c, hfirst, hgroup⟩ := h
  obtain ⟨u, hu, hmatch⟩ := List.exists_of_findSome?_eq_some hfirst
  obtain ⟨⟨c, s⟩, hm, rfl⟩ := Option.map_eq_some_iff.1 hmatch
  obtain ⟨slash, rest, rfl, hslash, hin⟩ := f.group_of_relativePathRegex (List.mem_of_mem_head? hm)
  have hut : u <:+: t := ((List.mem_tails u t).1 hu).isInfix
  cases hgroup
  have hascii : slash.toNat < 128 := ht.ascii slash (hut.subset (hin.subset List.mem_cons_self))
  rw [f.letter_ascii '/' hascii, beq_iff_eq, toLower_eq_iff (by decide)] at hslash
  rw [hslash] at hin ⊢
  exact ⟨rest, rfl, hin.trans hut⟩

/-- Text that is a word of the expression, in either case. -/
theorem forall₂_letter {s : Scalars} (hs : ASCII s) {w : String} (h : s.map Char.toLower = w.toList) :
    List.Forall₂ (fun p x => p x = true) (w.toList.map f.letter) s := by
  rw [← h, List.map_map, List.forall₂_map_left_iff, List.forall₂_same]
  intro c hc
  rw [Function.comp_apply, f.letter_ascii _ (hs c hc), beq_self_eq_true]

/-- From the slash behind the host on, the expression matches the rest of the URL. -/
theorem ends_authority {authority rest : Scalars} (hascii : ASCII authority)
    (hauthority : ∀ c ∈ authority, c ≠ '/' ∧ lineTerminator c = false) (hrest : ∀ c ∈ rest, lineTerminator c = false) :
    (Regex.ends (.seq (.lazyStar dot) (.group 1 (.seq (.symbol (f.letter '/')) (.star dot)))) []
      (authority ++ '/' :: rest)).head? = some ([(1, '/' :: rest)], []) := by
  have hdot {c : Char} (hc : lineTerminator c = false) : dot c = true := by rw [dot, hc]; rfl
  have hslash : f.letter '/' '/' = true := by rw [f.letter_ascii '/' (by decide)]; rfl
  have hnone : ∀ c ∈ authority, ∀ s,
      Regex.ends (.group 1 (.seq (.symbol (f.letter '/')) (.star dot))) [] (c :: s) = [] := by
    intro c hc s
    have hne : f.letter '/' c = false := by
      rw [f.letter_ascii '/' (hascii c hc), beq_eq_false_iff_ne, Ne, toLower_eq_iff (by decide)]
      exact (hauthority c hc).1
    rw [Regex.ends_group, Regex.ends_seq, Regex.ends_symbol_cons, if_neg (Bool.eq_false_iff.1 hne)]
    rfl
  rw [Regex.ends_lazyStar_seq (fun c hc => hdot (hauthority c hc).2) hnone]
  apply Regex.head?_ends_lazyStar_seq
  have hall : (Regex.ends (.seq (.symbol (f.letter '/')) (.star dot)) [] ('/' :: rest)).head? = some ([], []) := by
    rw [Regex.ends_seq_symbol hslash]
    exact Regex.head?_ends_star [] fun c hc => hdot (hrest c hc)
  rw [Regex.head?_ends_group hall, List.length_nil, Nat.sub_zero, List.take_length]

/-- An `http` or `https` URL on one line, and what stands behind the slash after its host. -/
def Absolute (url rest : Scalars) : Prop :=
  ∃ scheme authority, url = scheme ++ ':' :: '/' :: '/' :: (authority ++ '/' :: rest) ∧
    (scheme.map Char.toLower = "http".toList ∨ scheme.map Char.toLower = "https".toList) ∧
    (∀ c ∈ authority, c ≠ '/' ∧ lineTerminator c = false) ∧ ∀ c ∈ rest, lineTerminator c = false

/-- The scheme and the host of an absolute URL are cut off. -/
theorem matchRelativePath_absolute {url rest : Scalars} (ht : Inline url) (h : Absolute url rest) :
    f.matchRelativePath url = some ('/' :: rest) := by
  obtain ⟨scheme, authority, rfl, hscheme, hauthority, hrest⟩ := h
  have hascii : ASCII authority := ht.ascii.of_subset fun c hc => by simp [hc]
  have hs : ASCII scheme := ht.ascii.of_subset fun c hc => by simp [hc]
  -- what is matched from the colon on
  have hcolon : (Regex.ends (.seq (f.word "://") (.seq (.lazyStar dot)
      (.group 1 (.seq (.symbol (f.letter '/')) (.star dot))))) [] (':' :: '/' :: '/' :: (authority ++ '/' :: rest))).head? =
        some ([(1, '/' :: rest)], []) := by
    have hsep : List.Forall₂ (fun p x => p x = true) ("://".toList.map f.letter) [':', '/', '/'] :=
      f.forall₂_letter (by decide) (by decide)
    exact (congrArg List.head? (Regex.ends_seq_word hsep _ [] (authority ++ '/' :: rest))).trans
      (f.ends_authority hascii hauthority hrest)
  have hmatch : f.relativePathRegex.matchHere (scheme ++ ':' :: '/' :: '/' :: (authority ++ '/' :: rest)) =
      some [(1, '/' :: rest)] := by
    rw [Regex.matchHere, Option.map_eq_some_iff]
    refine ⟨([(1, '/' :: rest)], []), ?_, rfl⟩
    rcases hscheme with hhttp | hhttps
    · rw [relativePathRegex, word, Regex.ends_seq_word (f.forall₂_letter hs hhttp), Regex.ends_seq_optional,
        Regex.ends_seq_symbol (by decide)]
      -- with the colon in the place of the optional symbol there is no other behind it
      have hother : f.letter ':' '/' = false := by rw [f.letter_ascii ':' (by decide)]; rfl
      have hnone : Regex.ends (f.word "://") [] ('/' :: '/' :: (authority ++ '/' :: rest)) = [] :=
        Regex.ends_word_of_neg hother [f.letter '/', f.letter '/'] _ _
      rw [Regex.ends_seq, hnone, List.flatMap_nil, List.nil_append]
      exact hcolon
    · obtain ⟨http, s, rfl, hhttp, hlast⟩ := List.map_eq_append_iff.1
        (show scheme.map Char.toLower = "http".toList ++ ['s'] from hhttps)
      obtain ⟨c, rfl, hc⟩ := List.map_eq_singleton_iff.1 hlast
      have hdot : dot c = true := dot_of_toLower (by decide) (by decide) hc
      have hhttp := f.forall₂_letter (hs.of_subset (List.subset_append_left _ _)) hhttp
      rw [List.append_assoc, relativePathRegex, word, Regex.ends_seq_word hhttp, Regex.ends_seq_optional,
        List.singleton_append, Regex.ends_seq_symbol hdot, List.head?_append, hcolon]
      rfl
  rw [f.matchRelativePath_inline ht, Regex.firstMatch_of_matchHere hmatch]
  rfl

end Foundation

end VpnSs.NEKit
