/-
`HTTPHeader`: a request header parsed from the bytes of a read, rewritten for the server, and printed
again.
-/
import VpnSs.Lib.Except
import VpnSs.NEKit.HTTPURL

namespace VpnSs.NEKit

open VpnSs.Swift VpnSs.Lines

/-! ## Headers -/

inductive HTTPHeaderError where
  | malformedHeader
  | invalidRequestLine
  | invalidHeaderField
  | invalidConnectURL
  | invalidConnectPort
  | invalidURL
  | missingHostField
  | invalidHostField
  | invalidHostPort
  | invalidContentLength
  | illegalEncoding
  deriving DecidableEq, Repr

/-- `HTTPHeader`, without the URLs and the raw header it keeps for others. -/
structure HTTPHeader where
  HTTPVersion : Scalars
  method : Scalars
  isConnect : Bool
  path : Scalars
  host : Scalars
  port : Int
  contentLength : Int
  headers : List (Scalars × Scalars)
  deriving DecidableEq, Repr

namespace HTTPHeader

/-- The request line and the fields, as a header has them before its target is resolved. -/
structure Fields where
  method : Scalars
  path : Scalars
  HTTPVersion : Scalars
  headers : List (Scalars × Scalars)
  deriving DecidableEq, Repr

def parseField (f : Foundation) (line : Scalars) : Except HTTPHeaderError (Scalars × Scalars) :=
  match f.splitColon line with
  | some (key, value) => .ok (trim whitespaces key, trim whitespaces value)
  | none => .error .invalidHeaderField

/-- The lines of a header: the request line, the fields, and two last ones that are not read. -/
def parseFields (f : Foundation) (headerString : Scalars) : Except HTTPHeaderError Fields :=
  let lines := f.components headerString ['\r', '\n']
  if lines.length < 3 then .error .malformedHeader
  else
    match f.components (lines.headD []) [' '] with
    | [method, path, HTTPVersion] =>
      ((lines.tail.take (lines.length - 3)).mapM (parseField f)).map fun headers =>
        { method, path, HTTPVersion, headers }
    | _ => .error .invalidRequestLine

/-- The value of the first field with the key. -/
def first (f : Foundation) (headers : List (Scalars × Scalars)) (key : String) : Option Scalars :=
  (headers.find? fun h => f.caseInsensitiveSame key.toList h.1).map Prod.snd

/-- The host and the port of the `Host` field. -/
def hostField (f : Foundation) (headers : List (Scalars × Scalars)) : Except HTTPHeaderError (Scalars × Int) :=
  let url := (first f headers "Host").getD []
  if url = [] then .error .missingHostField
  else
    match f.components url [':'] with
    | [host, port] =>
      match int (plain port) with
      | none => .error .invalidHostPort
      | some port => .ok (host, port)
    | [host] => .ok (host, 80)
    | _ => .error .invalidHostField

/-- The host and the port of a URL that has a host, else of the `Host` field. -/
def urlOrHostField (f : Foundation) (u : URLParts) (headers : List (Scalars × Scalars)) :
    Except HTTPHeaderError (Scalars × Int) :=
  match u.host with
  | some host => .ok (host, u.port.getD 80)
  | none => hostField f headers

def target (f : Foundation) (path : Scalars) (headers : List (Scalars × Scalars)) :
    Except HTTPHeaderError (Scalars × Int) :=
  match f.url path with
  | some u => urlOrHostField f u headers
  | none =>
    match f.httpURL path with
    | some u => urlOrHostField f u headers
    | none => .error .invalidURL

/-- `HTTPHeader(headerString:)` -/
def ofString (f : Foundation) (headerString : Scalars) : Except HTTPHeaderError HTTPHeader := do
  let { method, path, HTTPVersion, headers } ← parseFields f headerString
  if uppercased method = "CONNECT".toList then
    match f.components path [':'] with
    | [host, port] =>
      match int (plain port) with
      | none => throw .invalidConnectPort
      | some port => return { HTTPVersion, method, isConnect := true, path, host, port, contentLength := 0, headers }
    | _ => throw .invalidConnectURL
  else
    let (host, port) ← target f path headers
    match first f headers "Content-Length" with
    | none => return { HTTPVersion, method, isConnect := false, path, host, port, contentLength := 0, headers }
    | some value =>
      match int (plain value) with
      | none => throw .invalidContentLength
      | some contentLength =>
        return { HTTPVersion, method, isConnect := false, path, host, port, contentLength, headers }

/-- `HTTPHeader(headerData:)` -/
def ofData (f : Foundation) (headerData : Data) : Except HTTPHeaderError HTTPHeader :=
  match decodeUTF8 headerData with
  | none => .error .illegalEncoding
  | some headerString => ofString f headerString

/-! ## Printing and rewriting -/

def toScalars (h : HTTPHeader) : Scalars :=
  h.method ++ ' ' :: (h.path ++ ' ' :: (h.HTTPVersion ++ "\r\n".toList)) ++
    h.headers.flatMap (fun field => field.1 ++ ": ".toList ++ field.2 ++ "\r\n".toList) ++ "\r\n".toList

def toData (h : HTTPHeader) : Data := encodeUTF8 h.toScalars

/-- `rewriteToRelativePath`; none where it traps, on an empty path. -/
def rewriteToRelativePath (f : Foundation) (h : HTTPHeader) : Option HTTPHeader :=
  if h.path = [] then none
  else if (f.graphemes h.path).head? = some ['/'] then some h
  else
    match f.matchRelativePath h.path with
    | none => some h
    | some path => some { h with path }

/-- `removeHeader`: drops the first field with the key. -/
def removeHeader (f : Foundation) (h : HTTPHeader) (key : String) : HTTPHeader :=
  { h with headers := h.headers.eraseP fun field => f.caseInsensitiveSame field.1 key.toList }

def ProxyHeader : List String := ["Proxy-Authenticate", "Proxy-Authorization", "Proxy-Connection"]

def removeProxyHeader (f : Foundation) (h : HTTPHeader) : HTTPHeader := ProxyHeader.foldl (removeHeader f) h

/-! ## Reading back a printed header -/

/-- Parts of a header that come back when they are printed and read. -/
structure Clean (h : Fields) : Prop where
  method : Inline h.method ∧ ' ' ∉ h.method
  path : Inline h.path ∧ ' ' ∉ h.path
  HTTPVersion : Inline h.HTTPVersion ∧ ' ' ∉ h.HTTPVersion
  headers : ∀ field ∈ h.headers, Inline field.1 ∧ ':' ∉ field.1 ∧ trim whitespaces field.1 = field.1 ∧
    Inline field.2 ∧ trim whitespaces field.2 = field.2

/-- The parts of a header that are printed. -/
def fields (h : HTTPHeader) : Fields :=
  { method := h.method, path := h.path, HTTPVersion := h.HTTPVersion, headers := h.headers }

theorem splitColon_append (f : Foundation) {key value : Scalars} (hline : Inline (key ++ ':' :: value)) (hkey : ':' ∉ key) :
    f.splitColon (key ++ ':' :: value) = some (key, value) := by
  have hall : ∀ c ∈ key, (c != ':') = true := fun c hc => by
    rw [bne_iff_ne]; rintro rfl; exact hkey hc
  rw [f.splitColon_inline hline, if_pos (by simp), List.takeWhile_append_of_pos hall,
    List.dropWhile_append_of_pos hall]
  simp

theorem parseFields_eq_ok {f : Foundation} {t : Scalars} {h : Fields} :
    parseFields f t = .ok h ↔ 3 ≤ (f.components t ['\r', '\n']).length ∧
      f.components ((f.components t ['\r', '\n']).headD []) [' '] = [h.method, h.path, h.HTTPVersion] ∧
      ((f.components t ['\r', '\n']).tail.take ((f.components t ['\r', '\n']).length - 3)).mapM (parseField f) =
        .ok h.headers := by
  unfold parseFields
  dsimp only
  split
  · rename_i hlen
    simp only [reduceCtorEq, false_iff]
    rintro ⟨h3, -⟩
    omega
  · rename_i hlen
    split
    · rename_i method path HTTPVersion hsplit
      rw [hsplit, VpnSs.Except.map_eq_ok]
      constructor
      · rintro ⟨headers, hmap, rfl⟩
        exact ⟨Nat.not_lt.1 hlen, rfl, hmap⟩
      · rintro ⟨-, heq, hmap⟩
        cases heq
        exact ⟨h.headers, hmap, rfl⟩
    · rename_i hother
      simp only [reduceCtorEq, false_iff]
      rintro ⟨-, heq, -⟩
      exact hother _ _ _ heq

/-- A field that parses is cut out of its line, and reads back when printed. -/
theorem parseField_clean {f : Foundation} {line key value : Scalars} (hline : Inline line)
    (h : parseField f line = .ok (key, value)) :
    Inline key ∧ ':' ∉ key ∧ trim whitespaces key = key ∧ Inline value ∧ trim whitespaces value = value := by
  unfold parseField at h
  rw [f.splitColon_inline hline] at h
  split at h
  · rename_i k v hsplit
    split at hsplit
    · cases hsplit
      cases h
      have hkey : trim whitespaces (line.takeWhile (· != ':')) <:+: line.takeWhile (· != ':') := trim_isInfix _
      refine ⟨hline.part (hkey.trans (List.takeWhile_prefix _).isInfix), ?_, trim_trim _, ?_, trim_trim _⟩
      · intro hin
        have := List.mem_takeWhile_imp (hkey.subset hin)
        simp at this
      · exact hline.part ((trim_isInfix _).trans ((List.tail_suffix _).isInfix.trans (List.dropWhile_suffix _).isInfix))
    · cases hsplit
  · cases h

/-- The fields that ASCII text parses into are clean. -/
theorem parseFields_clean {f : Foundation} {t : Scalars} {h : Fields} (ht : ASCII t)
    (hparse : parseFields f t = .ok h) : Clean h := by
  have hlines : ∀ l ∈ cut '\r' '\n' t, Inline l := fun l hl =>
    ⟨ht.of_subset (infix_of_mem_cut hl).subset, not_infix_of_mem_cut hl⟩
  obtain ⟨-, hsplit, hmap⟩ := parseFields_eq_ok.1 hparse
  rw [f.components_crlf ht] at hsplit hmap
  have hfirst : Inline ((cut '\r' '\n' t).headD []) := by
    apply hlines
    rcases hcs : cut '\r' '\n' t with _ | ⟨l, ls⟩
    · exact absurd hcs (cut_ne_nil t)
    · exact List.mem_cons_self
  rw [f.components_ascii hfirst.ascii (by decide) (by decide)] at hsplit
  obtain ⟨hjoin, hm, hp, hv⟩ := splitOn_eq_three.1 hsplit
  rw [hjoin] at hfirst
  refine ⟨⟨hfirst.part ?_, hm⟩, ⟨hfirst.part ?_, hp⟩, ⟨hfirst.part ?_, hv⟩, ?_⟩
  · exact (List.prefix_append _ _).isInfix
  · exact ⟨h.method ++ [' '], ' ' :: h.HTTPVersion, by simp⟩
  · exact ⟨h.method ++ ' ' :: (h.path ++ [' ']), [], by simp⟩
  · intro field hfield
    obtain ⟨line, hline, hfield⟩ := VpnSs.Except.exists_of_mem_mapM hmap hfield
    have hmem : line ∈ cut '\r' '\n' t := List.mem_of_mem_tail (List.mem_of_mem_take hline)
    exact parseField_clean (hlines line hmem) hfield

/-- The lines of a printed header, but for the two last ones. -/
def lines (h : HTTPHeader) : List Scalars :=
  (h.method ++ ' ' :: (h.path ++ ' ' :: h.HTTPVersion)) ::
    h.headers.map fun field => field.1 ++ ':' :: (' ' :: field.2)

theorem inline_of_mem_lines {h : HTTPHeader} (hclean : Clean h.fields) : ∀ l ∈ h.lines, Inline l := by
  have hempty : Inline [] := ⟨fun c hc => (nomatch hc), fun hin => by simpa using hin.length_le⟩
  have hspace {s t : Scalars} (hs : Inline s) (ht : Inline t) : Inline (s ++ ' ' :: t) :=
    hs.append_cons ht (by decide) (by decide) (by decide)
  have hcolon {s t : Scalars} (hs : Inline s) (ht : Inline t) : Inline (s ++ ':' :: t) :=
    hs.append_cons ht (by decide) (by decide) (by decide)
  intro l hl
  rcases List.mem_cons.1 hl with rfl | hl
  · exact hspace hclean.method.1 (hspace hclean.path.1 hclean.HTTPVersion.1)
  · obtain ⟨field, hfield, rfl⟩ := List.mem_map.1 hl
    obtain ⟨hkey, -, -, hvalue, -⟩ := hclean.headers field hfield
    exact hcolon hkey (hspace hempty hvalue)

/-- A printed header is cut into its lines again. -/
theorem components_toScalars (f : Foundation) {h : HTTPHeader} (hclean : Clean h.fields) :
    f.components h.toScalars ['\r', '\n'] = h.lines ++ [[], []] := by
  have hlines := inline_of_mem_lines hclean
  have hempty : ¬ ['\r', '\n'] <:+: ([] : Scalars) := fun hin => by simpa using hin.length_le
  have hjoin : h.toScalars = (h.lines ++ [[]]).flatMap (fun l => l ++ ['\r', '\n']) ++ [] := by
    simp [toScalars, lines, List.flatMap_map]
  have hascii : ASCII h.toScalars := by
    intro c hc
    rw [hjoin, List.append_nil, List.mem_flatMap] at hc
    obtain ⟨l, hl, hc⟩ := hc
    rcases List.mem_append.1 hc with hc | hc
    · rcases List.mem_append.1 hl with hl | hl
      · exact (hlines l hl).ascii c hc
      · rw [List.mem_singleton.1 hl] at hc
        cases hc
    · exact (show ASCII ['\r', '\n'] by decide) c hc
  rw [f.components_crlf hascii, hjoin, cut_flatMap (by decide) fun l hl => ?_]
  · simp [cut]
  · rcases List.mem_append.1 hl with hl | hl
    · exact (hlines l hl).unbroken
    · rw [List.mem_singleton.1 hl]
      exact hempty

/-- What is printed of clean parts is read back. -/
theorem parseFields_toScalars (f : Foundation) {h : HTTPHeader} (hclean : Clean h.fields) :
    parseFields f h.toScalars = .ok h.fields := by
  have hlines := inline_of_mem_lines hclean
  have hfields : (h.headers.map fun field => field.1 ++ ':' :: (' ' :: field.2)).mapM (parseField f) =
      .ok h.headers := by
    rw [VpnSs.Except.mapM_eq_ok, List.forall₂_map_left_iff]
    apply List.forall₂_same.2
    rintro ⟨key, value⟩ hfield
    obtain ⟨-, hcolon, hkey, -, hvalue⟩ := hclean.headers _ hfield
    have hline := hlines _ (List.mem_cons_of_mem _ (List.mem_map_of_mem hfield))
    rw [parseField, splitColon_append f hline hcolon]
    dsimp only at *
    rw [hkey, trim_cons rfl, hvalue]
  have hfirst : f.components (h.method ++ ' ' :: (h.path ++ ' ' :: h.HTTPVersion)) [' '] =
      [h.method, h.path, h.HTTPVersion] := by
    rw [f.components_ascii (hlines _ List.mem_cons_self).ascii (by decide) (by decide)]
    exact splitOn_eq_three.2 ⟨rfl, hclean.method.2, hclean.path.2, hclean.HTTPVersion.2⟩
  rw [parseFields_eq_ok, components_toScalars f hclean]
  refine ⟨by simp [lines], hfirst, ?_⟩
  have htake : (h.lines ++ [[], []]).tail.take ((h.lines ++ [[], []]).length - 3) =
      h.headers.map fun field => field.1 ++ ':' :: (' ' :: field.2) := by
    have hlen : (h.lines ++ [[], []]).length - 3 = h.headers.length := by simp [lines]
    rw [hlen, lines, List.cons_append, List.tail_cons]
    exact List.take_left' (List.length_map ..)
  rw [htake]
  exact hfields

/-! ## What is forwarded -/

/-- The fields with a key, in their order. -/
def named (f : Foundation) (headers : List (Scalars × Scalars)) (key : Scalars) : List (Scalars × Scalars) :=
  headers.filter fun field => f.caseInsensitiveSame field.1 key

theorem filter_eraseP_self {α : Type} (p : α → Bool) (l : List α) : (l.eraseP p).filter p = (l.filter p).tail := by
  induction l with
  | nil => rfl
  | cons x l ih =>
    cases hx : p x with
    | true => simp [hx]
    | false => simp [hx, ih]

theorem filter_eraseP_of_disjoint {α : Type} {p q : α → Bool} (h : ∀ x, p x = true → q x = false) (l : List α) :
    (l.eraseP p).filter q = l.filter q := by
  induction l with
  | nil => rfl
  | cons x l ih =>
    cases hx : p x with
    | true => simp [hx, h x hx]
    | false => simp [hx, List.filter_cons, ih]

section

variable (f : Foundation)

theorem named_removeHeader (h : HTTPHeader) (name : String) (key : Scalars) :
    named f (h.removeHeader f name).headers key =
      if f.caseInsensitiveSame name.toList key then (named f h.headers key).tail else named f h.headers key := by
  unfold named removeHeader
  split
  · rename_i hsame
    have hfun : (fun field : Scalars × Scalars => f.caseInsensitiveSame field.1 name.toList) =
        fun field => f.caseInsensitiveSame field.1 key := by
      funext field
      simp only [Foundation.caseInsensitiveSame, beq_iff_eq] at hsame ⊢
      rw [hsame]
    rw [hfun, filter_eraseP_self]
  · rename_i hsame
    apply filter_eraseP_of_disjoint
    intro field hfield
    simp only [Foundation.caseInsensitiveSame, beq_iff_eq, beq_eq_false_iff_ne] at *
    rw [hfield]
    exact hsame

/-- Of each of some different fields the first is dropped. -/
theorem named_foldl_removeHeader {names : List String}
    (hnames : names.Pairwise fun m n => f.caseInsensitiveSame m.toList n.toList = false) (h : HTTPHeader)
    (key : Scalars) :
    named f (names.foldl (removeHeader f) h).headers key =
      if names.any (fun name => f.caseInsensitiveSame name.toList key) then (named f h.headers key).tail
      else named f h.headers key := by
  induction names generalizing h with
  | nil => rfl
  | cons name names ih =>
    obtain ⟨hfirst, hrest⟩ := List.pairwise_cons.1 hnames
    rw [List.foldl_cons, ih hrest, named_removeHeader, List.any_cons]
    cases hsame : f.caseInsensitiveSame name.toList key with
    | false => simp
    | true =>
      -- the key is the same as none of the other names
      have hnone : names.any (fun name => f.caseInsensitiveSame name.toList key) = false := by
        rw [List.any_eq_false]
        intro n hn hkey
        have hne := hfirst n hn
        simp only [Foundation.caseInsensitiveSame, beq_iff_eq, beq_eq_false_iff_ne] at hne hsame hkey
        exact hne (hsame.trans hkey.symm)
      simp [hnone]

theorem pairwise_ProxyHeader :
    ProxyHeader.Pairwise fun m n => f.caseInsensitiveSame m.toList n.toList = false := by
  have hascii : ∀ n ∈ ProxyHeader, ASCII n.toList := by decide
  have hpair : ProxyHeader.Pairwise fun m n => m.toList.map Char.toLower ≠ n.toList.map Char.toLower := by decide
  refine hpair.imp_of_mem fun {m n} hm hn hne => ?_
  rw [Foundation.caseInsensitiveSame, f.foldCase_ascii _ (hascii m hm), f.foldCase_ascii _ (hascii n hn)]
  exact beq_eq_false_iff_ne.2 hne

/-- Of each of the proxy fields the first is dropped; the other fields are kept in their order. -/
theorem named_removeProxyHeader (h : HTTPHeader) (key : Scalars) :
    named f (h.removeProxyHeader f).headers key =
      if ProxyHeader.any (fun name => f.caseInsensitiveSame name.toList key) then (named f h.headers key).tail
      else named f h.headers key :=
  named_foldl_removeHeader f (pairwise_ProxyHeader f) h key

theorem headers_removeProxyHeader_subset (h : HTTPHeader) : (h.removeProxyHeader f).headers ⊆ h.headers := by
  have hstep (h : HTTPHeader) (name : String) : (h.removeHeader f name).headers ⊆ h.headers :=
    List.eraseP_subset
  exact List.Subset.trans (List.Subset.trans (hstep _ _) (hstep _ _)) (hstep _ _)

theorem removeProxyHeader_fields (h : HTTPHeader) :
    (h.removeProxyHeader f).method = h.method ∧ (h.removeProxyHeader f).path = h.path ∧
      (h.removeProxyHeader f).HTTPVersion = h.HTTPVersion :=
  ⟨rfl, rfl, rfl⟩

end

/-- A header that parses has the parts its text parses into. -/
theorem parseFields_of_ofString {f : Foundation} {t : Scalars} {h : HTTPHeader} (hparse : ofString f t = .ok h) :
    parseFields f t = .ok h.fields := by
  obtain ⟨parts, hparts, hrest⟩ := VpnSs.Except.bind_eq_ok.1 hparse
  rw [hparts]
  dsimp only at hrest
  split at hrest
  · split at hrest
    · split at hrest <;> cases hrest
      rfl
    · cases hrest
  · obtain ⟨⟨host, port⟩, -, hrest⟩ := VpnSs.Except.bind_eq_ok.1 hrest
    dsimp only at hrest
    split at hrest
    · cases hrest
      rfl
    · split at hrest <;> cases hrest
      rfl

theorem clean_of_ofData {f : Foundation} {t : Scalars} {h : HTTPHeader} (ht : ASCII t)
    (hparse : ofData f (encodeUTF8 t) = .ok h) : Clean h.fields := by
  rw [ofData, decodeUTF8_encodeUTF8] at hparse
  exact parseFields_clean ht (parseFields_of_ofString hparse)

/-- What rewriting does: it traps on an empty path, and changes nothing else. -/
theorem rewriteToRelativePath_cases (f : Foundation) (h : HTTPHeader) :
    h.path = [] ∧ rewriteToRelativePath f h = none ∨
      h.path ≠ [] ∧ ∃ path, rewriteToRelativePath f h = some { h with path } ∧
        (path = h.path ∧ ((f.graphemes h.path).head? = some ['/'] ∨ f.matchRelativePath h.path = none) ∨
          f.matchRelativePath h.path = some path) := by
  unfold rewriteToRelativePath
  split
  · rename_i hnil
    exact .inl ⟨hnil, rfl⟩
  · rename_i hne
    refine .inr ⟨hne, ?_⟩
    split
    · rename_i hslash
      exact ⟨h.path, rfl, .inl ⟨rfl, .inl hslash⟩⟩
    · split
      · rename_i hnone
        exact ⟨h.path, rfl, .inl ⟨rfl, .inr hnone⟩⟩
      · rename_i path hpath
        exact ⟨path, rfl, .inr hpath⟩

/-- The path of a clean header that is rewritten: it stays, or a part from a slash on is left, which of an
absolute URL is what stands behind the host. -/
theorem path_of_rewrite {f : Foundation} {h h' : HTTPHeader} (hpath : Inline h.path)
    (hr : rewriteToRelativePath f h = some h') :
    (h'.path = h.path ∨ h'.path.head? = some '/' ∧ h'.path <:+: h.path) ∧
      ∀ rest, Foundation.Absolute h.path rest → h'.path = '/' :: rest := by
  rcases rewriteToRelativePath_cases f h with ⟨-, hnone⟩ | ⟨-, path, hsome, hcases⟩
  · rw [hr] at hnone; cases hnone
  · cases hr.symm.trans hsome
    constructor
    · rcases hcases with ⟨hsame, -⟩ | hmatch
      · exact .inl hsame
      · obtain ⟨rest, rfl, hin⟩ := f.matchRelativePath_eq_some hpath hmatch
        exact .inr ⟨rfl, hin⟩
    · intro rest habs
      have hmatch := f.matchRelativePath_absolute hpath habs
      rcases hcases with ⟨-, hslash | hnone⟩ | hmatch'
      · -- an absolute URL begins with its scheme
        obtain ⟨scheme, authority, hurl, hscheme, -⟩ := habs
        rw [f.graphemes_inline hpath, hurl, List.head?_map] at hslash
        have hhead : scheme.head?.map Char.toLower = some 'h' := by
          rw [← List.head?_map]
          rcases hscheme with heq | heq <;> rw [heq] <;> rfl
        obtain ⟨c, hc, hlower⟩ := Option.map_eq_some_iff.1 hhead
        rw [List.head?_append, hc, Option.some_or, Option.map_some] at hslash
        cases hslash
        exact absurd hlower (by decide)
      · rw [hmatch] at hnone; cases hnone
      · exact Option.some.inj (hmatch'.symm.trans hmatch)

/-- What is kept of clean parts is clean. -/
theorem Clean.rewrite {f : Foundation} {h h' : HTTPHeader} (hclean : Clean h.fields)
    (hr : rewriteToRelativePath f (h.removeProxyHeader f) = some h') : Clean h'.fields := by
  have hproxy : Clean (h.removeProxyHeader f).fields :=
    ⟨hclean.method, hclean.path, hclean.HTTPVersion, fun field hfield =>
      hclean.headers field (headers_removeProxyHeader_subset f h hfield)⟩
  have hpath : h'.path <:+: h.path := by
    rcases (path_of_rewrite hproxy.path.1 hr).1 with heq | ⟨-, hin⟩
    · rw [heq]; exact List.infix_rfl
    · exact hin
  rcases rewriteToRelativePath_cases f (h.removeProxyHeader f) with ⟨-, hnone⟩ | ⟨-, path, hsome, -⟩
  · rw [hr] at hnone; cases hnone
  · cases hr.symm.trans hsome
    exact ⟨hproxy.method, ⟨hclean.path.1.part hpath, fun hin => hclean.path.2 (hpath.subset hin)⟩,
      hproxy.HTTPVersion, hproxy.headers⟩

/-- What the proxy makes of a header it accepts: it traps exactly on an empty path, and otherwise keeps the method,
the version, and the fields but for the first of each of the proxy fields. If the header is ASCII the bytes that
are forwarded read back as that, and the path is what it was or a part of it from a slash on, which of an absolute
URL is what stands behind the host. -/
theorem forwarded_header {f : Foundation} {d : Data} {h : HTTPHeader} (hparse : ofData f d = .ok h) :
    (rewriteToRelativePath f (h.removeProxyHeader f) = none ↔ h.path = []) ∧
      ∀ h', rewriteToRelativePath f (h.removeProxyHeader f) = some h' →
        h'.method = h.method ∧ h'.HTTPVersion = h.HTTPVersion ∧
          (∀ key, named f h'.headers key =
            if ProxyHeader.any (fun name => f.caseInsensitiveSame name.toList key) then (named f h.headers key).tail
            else named f h.headers key) ∧
          ∀ t, ASCII t → d = encodeUTF8 t →
            (decodeUTF8 h'.toData).map (parseFields f) = some (.ok h'.fields) ∧
              (h'.path = h.path ∨ h'.path.head? = some '/' ∧ h'.path <:+: h.path) ∧
              ∀ rest, Foundation.Absolute h.path rest → h'.path = '/' :: rest := by
  obtain ⟨hm, hp, hv⟩ := removeProxyHeader_fields f h
  rcases rewriteToRelativePath_cases f (h.removeProxyHeader f) with ⟨hnil, hnone⟩ | ⟨hne, path, hsome, -⟩
  · rw [hnone]
    exact ⟨⟨fun _ => hnil, fun _ => rfl⟩, fun h' hr => (nomatch hr)⟩
  · constructor
    · rw [hsome]
      exact ⟨fun hr => (nomatch hr), fun hnil => absurd hnil hne⟩
    · intro h' hr
      cases hr.symm.trans hsome
      refine ⟨hm, hv, named_removeProxyHeader f h, fun t ht hd => ?_⟩
      have hclean := clean_of_ofData ht (hd ▸ hparse)
      refine ⟨?_, path_of_rewrite (h := h.removeProxyHeader f) hclean.path.1 hr⟩
      rw [toData, decodeUTF8_encodeUTF8, Option.map_some, parseFields_toScalars f (hclean.rewrite hr)]

theorem forwarded_header_get :
    ∃ h h', ofData (.fixed ⟨some "a.b".toList, none⟩)
        (encodeUTF8 "GET http://a.b/c HTTP/1.1\r\nHost: a.b\r\nProxy-Connection: keep-alive\r\n\r\n".toList) = .ok h ∧
      rewriteToRelativePath (.fixed ⟨some "a.b".toList, none⟩)
        (h.removeProxyHeader (.fixed ⟨some "a.b".toList, none⟩)) = some h' ∧
      h'.method = "GET".toList ∧ h'.HTTPVersion = "HTTP/1.1".toList ∧
      named (.fixed ⟨some "a.b".toList, none⟩) h'.headers "host".toList = [("Host".toList, "a.b".toList)] ∧
      named (.fixed ⟨some "a.b".toList, none⟩) h'.headers "proxy-connection".toList = [] ∧
      (decodeUTF8 h'.toData).map (parseFields (.fixed ⟨some "a.b".toList, none⟩)) = some (.ok h'.fields) ∧
      h'.path = "/c".toList := by
  have hparse : ofData (.fixed ⟨some "a.b".toList, none⟩)
      (encodeUTF8 "GET http://a.b/c HTTP/1.1\r\nHost: a.b\r\nProxy-Connection: keep-alive\r\n\r\n".toList) = .ok
        { HTTPVersion := "HTTP/1.1".toList, method := "GET".toList, isConnect := false, path := "http://a.b/c".toList,
          host := "a.b".toList, port := 80, contentLength := 0,
          headers := [("Host".toList, "a.b".toList), ("Proxy-Connection".toList, "keep-alive".toList)] } := by
    rw [ofData, decodeUTF8_encodeUTF8]
    decide
  obtain ⟨htrap, hforwarded⟩ := forwarded_header hparse
  obtain ⟨h', hr⟩ := Option.ne_none_iff_exists'.1 fun hnone => absurd (htrap.1 hnone) (by decide)
  obtain ⟨hmethod, hversion, hnamed, hascii⟩ := hforwarded h' hr
  obtain ⟨hback, -, hpath⟩ := hascii _ (by decide) rfl
  have habs : Foundation.Absolute "http://a.b/c".toList "c".toList := by
    refine ⟨"http".toList, "a.b".toList, by decide, .inl (by decide), ?_, ?_⟩
    · simp [Foundation.lineTerminator]
    · simp [Foundation.lineTerminator]
  exact ⟨_, h', hparse, hr, hmethod, hversion, (hnamed _).trans (by decide), (hnamed _).trans (by decide), hback,
    hpath _ habs⟩

end HTTPHeader

end VpnSs.NEKit
