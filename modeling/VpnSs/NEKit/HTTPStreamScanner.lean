/-
`HTTPStreamScanner`: what to read next from a client, by the headers it has sent. When each read is
answered with what it asks for, the results are cut as the headers say: after a header as much content
as it announces, then the next header.
-/
import VpnSs.Lib.Lts
import VpnSs.NEKit.HTTPHeader
import VpnSs.NEKit.RawSocket

namespace VpnSs.NEKit

open VpnSs.Swift

/-- `Opt.MAXHTTPContentBlockLength` -/
def MAXHTTPContentBlockLength : Int := 10240

/-- `Utils.HTTPData.DoubleCRLF` -/
def DoubleCRLF : Data := data "\r\n\r\n"

/-- `HTTPStreamScanner.ReadAction` -/
inductive ReadAction where
  | readHeader
  | readContent (length : Int)
  | stop
  deriving DecidableEq, Repr

/-- `HTTPStreamScanner.Result` -/
inductive ScannerResult where
  | header (h : HTTPHeader)
  | content (d : Data)
  deriving DecidableEq, Repr

inductive HTTPStreamScannerError where
  | contentIsTooLong
  | scannerIsStopped
  | unsupportedStreamType
  | header (error : HTTPHeaderError)
  deriving DecidableEq, Repr

structure HTTPStreamScanner where
  nextAction : ReadAction
  remainContentLength : Int
  currentHeader : Option HTTPHeader
  isConnect : Bool
  deriving DecidableEq, Repr

namespace HTTPStreamScanner

def initial : HTTPStreamScanner :=
  { nextAction := .readHeader, remainContentLength := 0, currentHeader := none, isConnect := false }

def setNextAction (s : HTTPStreamScanner) : HTTPStreamScanner :=
  if s.remainContentLength = 0 then { s with nextAction := .readHeader }
  else if s.remainContentLength < 0 then { s with nextAction := .readContent (-1) }
  else { s with nextAction := .readContent (min s.remainContentLength MAXHTTPContentBlockLength) }

/-- The header of the read, unless it does not parse or names another host than the one before. -/
def readHeader (f : Foundation) (s : HTTPStreamScanner) (d : Data) : Except HTTPStreamScannerError HTTPHeader :=
  match HTTPHeader.ofData f d with
  | .error e => .error (.header e)
  | .ok header =>
    match s.currentHeader with
    | none => .ok header
    | some current =>
      if f.characters header.host ≠ f.characters current.host then .error .unsupportedStreamType else .ok header

/-- The scanner that has read a header. -/
def accept (s : HTTPStreamScanner) (header : HTTPHeader) : HTTPStreamScanner :=
  let s := match s.currentHeader with
    | none =>
      if header.isConnect then { s with isConnect := true, remainContentLength := -1 }
      else { s with isConnect := false, remainContentLength := header.contentLength }
    | some _ => { s with remainContentLength := header.contentLength }
  setNextAction { s with currentHeader := some header }

/-- `input`; none where the subtraction overflows. -/
def input (f : Foundation) (s : HTTPStreamScanner) (d : Data) :
    Option (HTTPStreamScanner × Except HTTPStreamScannerError ScannerResult) :=
  match s.nextAction with
  | .readHeader =>
    match readHeader f s d with
    | .error e => some ({ s with nextAction := .stop }, .error e)
    | .ok header => some (s.accept header, .ok (.header header))
  | .readContent _ =>
    let remainContentLength := s.remainContentLength - d.length
    if remainContentLength < -2 ^ 63 then none
    else if !s.isConnect && remainContentLength < 0 then
      some ({ s with remainContentLength, nextAction := .stop }, .error .contentIsTooLong)
    else some (setNextAction { s with remainContentLength }, .ok (.content d))
  | .stop => some (s, .error .scannerIsStopped)

/-- What the proxy socket reads for the next action; nothing once the scanner has stopped. -/
def request (s : HTTPStreamScanner) : Option ReadRequest :=
  match s.nextAction with
  | .readContent length => if 0 < length then some (.length length.toNat) else some .data
  | .readHeader => some (.pattern DoubleCRLF)
  | .stop => none

/-! ## Reads one after another -/

/-- The scanner after a read it accepts. -/
def advance (f : Foundation) (s : HTTPStreamScanner) (d : Data) : Option HTTPStreamScanner :=
  match s.input f d with
  | some (s, .ok _) => some s
  | _ => none

/-- The results of the reads, up to the first that is not accepted. -/
def results (f : Foundation) : HTTPStreamScanner → List Data → List ScannerResult
  | _, [] => []
  | s, d :: ds =>
    match s.input f d with
    | some (s, .ok r) => r :: results f s ds
    | _ => []

/-- The read is answered with what it asks for. -/
def Answered (s : HTTPStreamScanner) (d : Data) : Prop := ∃ r ∈ s.request, r.Answers d

theorem advance_eq_some {f : Foundation} {s s' : HTTPStreamScanner} {d : Data} :
    s.advance f d = some s' ↔ ∃ r, s.input f d = some (s', .ok r) := by
  unfold advance
  rcases s.input f d with _ | ⟨t, e | r⟩
  · simp
  · simp
  · simp

theorem results_cons {f : Foundation} {s s' : HTTPStreamScanner} {d : Data} {r : ScannerResult}
    (h : s.input f d = some (s', .ok r)) (ds : List Data) : s.results f (d :: ds) = r :: s'.results f ds := by
  rw [results, h]

theorem run_singleton {f : Foundation} {s s' : HTTPStreamScanner} {d : Data} {r : ScannerResult}
    (h : s.input f d = some (s', .ok r)) : Lts.run (advance f) s [d] = some s' ∧ s.results f [d] = [r] := by
  constructor
  · rw [Lts.run_cons, advance_eq_some.2 ⟨r, h⟩]; rfl
  · rw [results_cons h, results]

/-- The results of accepted reads, and then those of the rest. -/
theorem results_append {f : Foundation} {s s' : HTTPStreamScanner} {ds : List Data}
    (h : Lts.run (advance f) s ds = some s') (es : List Data) :
    s.results f (ds ++ es) = s.results f ds ++ s'.results f es := by
  induction ds generalizing s with
  | nil => cases h; rfl
  | cons d ds ih =>
    obtain ⟨t, hd, hds⟩ := Lts.run_cons_some.1 h
    obtain ⟨r, hr⟩ := advance_eq_some.1 hd
    rw [List.cons_append, results_cons hr, results_cons hr, ih hds, List.cons_append]

theorem results_concat {f : Foundation} {s t u : HTTPStreamScanner} {ds : List Data} {d : Data} {r : ScannerResult}
    (h : Lts.run (advance f) s ds = some t) (hr : t.input f d = some (u, .ok r)) :
    s.results f (ds ++ [d]) = s.results f ds ++ [r] := by
  rw [results_append h, results_cons hr, results]

/-- Further reads only add to the results. -/
theorem results_monotone (f : Foundation) (s : HTTPStreamScanner) (ds es : List Data) :
    s.results f ds <+: s.results f (ds ++ es) := by
  induction ds generalizing s with
  | nil => exact List.nil_prefix
  | cons d ds ih =>
    rw [List.cons_append, results, results]
    rcases s.input f d with _ | ⟨t, e | r⟩
    · exact List.prefix_refl _
    · exact List.prefix_refl _
    · exact (List.prefix_cons_inj r).2 (ih t)

/-! ## Framing -/

/-- Reads cut as the headers among them say, with `due` bytes of content to come: a header where nothing
is due, which announces its content, and blocks of what is due. -/
inductive Messages (f : Foundation) : List Data → List ScannerResult → Int → Prop where
  | start : Messages f [] [] 0
  | header {ds rs d h} : Messages f ds rs 0 → HTTPHeader.ofData f d = .ok h →
      Messages f (ds ++ [d]) (rs ++ [.header h]) h.contentLength
  | content {ds rs due d} : Messages f ds rs due → 0 < d.length → d.length ≤ min due MAXHTTPContentBlockLength →
      Messages f (ds ++ [d]) (rs ++ [.content d]) (due - d.length)

/-- After a `CONNECT`: everything is content. -/
structure Tunnelling (s : HTTPStreamScanner) : Prop where
  isConnect : s.isConnect = true
  remainContentLength : s.remainContentLength < 0
  nextAction : s.nextAction = .readContent (-1)

/-- Otherwise the next action follows from what is due. -/
structure Counting (s : HTTPStreamScanner) : Prop where
  isConnect : s.isConnect = false
  nextAction : s.nextAction = s.setNextAction.nextAction

theorem setNextAction_eq (s : HTTPStreamScanner) : ∃ nextAction, s.setNextAction = { s with nextAction } := by
  unfold setNextAction
  split
  · exact ⟨_, rfl⟩
  · split <;> exact ⟨_, rfl⟩

theorem counting_setNextAction {s : HTTPStreamScanner} (h : s.isConnect = false) : s.setNextAction.Counting := by
  obtain ⟨nextAction, heq⟩ := setNextAction_eq s
  constructor
  · rw [heq]; exact h
  · -- the next action does not depend on the one before
    have hsame : s.setNextAction.setNextAction.nextAction = s.setNextAction.nextAction := by
      conv_lhs => rw [heq]
      unfold setNextAction
      split
      · rfl
      · split <;> rfl
    exact hsame.symm

theorem tunnelling_setNextAction {s : HTTPStreamScanner} (h : s.isConnect = true) (hneg : s.remainContentLength < 0) :
    s.setNextAction.Tunnelling := by
  have heq : s.setNextAction = { s with nextAction := .readContent (-1) } := by
    rw [setNextAction, if_neg (Int.ne_of_lt hneg), if_pos hneg]
  rw [heq]
  exact ⟨h, hneg, rfl⟩

theorem remainContentLength_setNextAction (s : HTTPStreamScanner) :
    s.setNextAction.remainContentLength = s.remainContentLength := by
  obtain ⟨nextAction, heq⟩ := setNextAction_eq s
  rw [heq]

theorem currentHeader_setNextAction (s : HTTPStreamScanner) : s.setNextAction.currentHeader = s.currentHeader := by
  obtain ⟨nextAction, heq⟩ := setNextAction_eq s
  rw [heq]

theorem readHeader_ok {f : Foundation} {s : HTTPStreamScanner} {d : Data} {h : HTTPHeader}
    (hr : s.readHeader f d = .ok h) : HTTPHeader.ofData f d = .ok h := by
  unfold readHeader at hr
  split at hr
  · cases hr
  · rename_i header hparse
    split at hr
    · cases hr; exact hparse
    · split at hr
      · cases hr
      · cases hr; exact hparse

/-- An accepted read is a header where one is to be read, else content. -/
theorem input_ok {f : Foundation} {s s' : HTTPStreamScanner} {d : Data} {r : ScannerResult}
    (h : s.input f d = some (s', .ok r)) :
    (s.nextAction = .readHeader ∧ ∃ header, HTTPHeader.ofData f d = .ok header ∧ r = .header header ∧
        s' = s.accept header) ∨
      ((∃ length, s.nextAction = .readContent length) ∧ r = .content d ∧
        (s.isConnect = false → 0 ≤ s.remainContentLength - d.length) ∧
        s' = setNextAction { s with remainContentLength := s.remainContentLength - d.length }) := by
  unfold input at h
  split at h
  · rename_i hact
    split at h
    · cases h
    · rename_i header hread
      cases h
      exact .inl ⟨hact, header, readHeader_ok hread, rfl, rfl⟩
  · rename_i length hact
    dsimp only at h
    split at h
    · cases h
    · split at h
      · cases h
      · rename_i hover
        cases h
        refine .inr ⟨⟨length, hact⟩, rfl, ?_, rfl⟩
        intro hconn
        simp only [hconn, Bool.not_false, Bool.true_and, decide_eq_true_eq] at hover
        exact Int.not_lt.1 hover
  · cases h

/-- The first header decides what follows it. -/
theorem accept_first {s : HTTPStreamScanner} (h : s.currentHeader = none) (header : HTTPHeader) :
    (header.isConnect = true → (s.accept header).Tunnelling) ∧
      (header.isConnect = false →
        (s.accept header).Counting ∧ (s.accept header).remainContentLength = header.contentLength) := by
  unfold accept
  rw [h]
  constructor
  · intro hconn
    simp only [hconn, if_true]
    exact tunnelling_setNextAction rfl (Int.negSucc_lt_zero 0)
  · intro hconn
    simp only [hconn, Bool.false_eq_true, if_false, remainContentLength_setNextAction, and_true]
    exact counting_setNextAction rfl

theorem accept_next {s : HTTPStreamScanner} (h : s.currentHeader ≠ none) (hc : s.isConnect = false)
    (header : HTTPHeader) :
    (s.accept header).Counting ∧ (s.accept header).remainContentLength = header.contentLength := by
  unfold accept
  obtain ⟨current, hcur⟩ := Option.ne_none_iff_exists'.1 h
  rw [hcur]
  dsimp only
  rw [remainContentLength_setNextAction]
  exact ⟨counting_setNextAction hc, rfl⟩

theorem currentHeader_accept (s : HTTPStreamScanner) (header : HTTPHeader) :
    (s.accept header).currentHeader = some header := by
  rw [accept, currentHeader_setNextAction]

theorem Tunnelling.input {f : Foundation} {s s' : HTTPStreamScanner} {d : Data} {r : ScannerResult}
    (h : s.Tunnelling) (hr : s.input f d = some (s', .ok r)) : r = .content d ∧ s'.Tunnelling := by
  rcases input_ok hr with ⟨hact, -⟩ | ⟨-, rfl, -, rfl⟩
  · rw [h.nextAction] at hact; cases hact
  · have hneg := h.remainContentLength
    exact ⟨rfl, tunnelling_setNextAction h.isConnect (by dsimp only; omega)⟩

/-- What a counting scanner makes of an answered read, by what is due. -/
theorem Counting.answered {s : HTTPStreamScanner} {d : Data} (h : s.Counting) (ha : s.Answered d) :
    (s.nextAction = .readHeader ∧ s.remainContentLength = 0) ∨
      ((∃ length, s.nextAction = .readContent length) ∧ 0 < d.length ∧
        (0 ≤ s.remainContentLength → d.length ≤ min s.remainContentLength MAXHTTPContentBlockLength)) := by
  obtain ⟨request, hreq, hans⟩ := ha
  have hact := h.nextAction
  rw [Option.mem_def, HTTPStreamScanner.request] at hreq
  unfold setNextAction at hact
  split at hact
  · rename_i hzero
    exact .inl ⟨hact, hzero⟩
  · split at hact
    · rename_i hne hneg
      dsimp only at hact
      rw [hact] at hreq
      cases hreq
      exact .inr ⟨⟨_, hact⟩, List.length_pos_iff.2 hans, fun hpos => by omega⟩
    · rename_i hne hneg
      dsimp only at hact
      have hpos : 0 < min s.remainContentLength MAXHTTPContentBlockLength := by
        unfold MAXHTTPContentBlockLength; omega
      rw [hact] at hreq
      dsimp only at hreq
      rw [if_pos hpos] at hreq
      cases hreq
      have hlen : d.length = (min s.remainContentLength MAXHTTPContentBlockLength).toNat := hans
      exact .inr ⟨⟨_, hact⟩, by omega, fun _ => by omega⟩

theorem Counting.input {f : Foundation} {s s' : HTTPStreamScanner} {d : Data} {r : ScannerResult} (h : s.Counting)
    (hcur : s.currentHeader ≠ none) (ha : s.Answered d) (hr : s.input f d = some (s', .ok r)) :
    s'.Counting ∧ s'.currentHeader ≠ none ∧ ∀ {ds rs}, Messages f ds rs s.remainContentLength →
      Messages f (ds ++ [d]) (rs ++ [r]) s'.remainContentLength := by
  rcases input_ok hr with ⟨hact, header, hparse, rfl, rfl⟩ | ⟨⟨length, hact⟩, rfl, hpos, rfl⟩
  · obtain ⟨hcount, hdue⟩ := accept_next hcur h.isConnect header
    refine ⟨hcount, ?_, ?_⟩
    · rw [currentHeader_accept]; exact Option.some_ne_none _
    · intro ds rs hm
      rcases h.answered ha with ⟨-, hzero⟩ | ⟨⟨n, hother⟩, -⟩
      · rw [hzero] at hm
        rw [hdue]
        exact hm.header hparse
      · rw [hact] at hother; cases hother
  · refine ⟨counting_setNextAction h.isConnect, ?_, ?_⟩
    · rw [currentHeader_setNextAction]; exact hcur
    · intro ds rs hm
      rw [remainContentLength_setNextAction]
      rcases h.answered ha with ⟨hother, -⟩ | ⟨-, hlen, hdue⟩
      · rw [hact] at hother; cases hother
      · have := hpos h.isConnect
        exact hm.content hlen (hdue (by omega))

/-- All reads after a `CONNECT` are content; otherwise they are cut as the headers say. -/
inductive Framed (f : Foundation) (ds : List Data) (s : HTTPStreamScanner) : Prop where
  | initial : ds = [] → s = .initial → Framed f ds s
  | tunnel (d h contents) : ds = d :: contents → HTTPHeader.ofData f d = .ok h → h.isConnect = true →
      results f .initial ds = .header h :: contents.map .content → s.Tunnelling → Framed f ds s
  | messages : Messages f ds (results f .initial ds) s.remainContentLength → s.Counting → s.currentHeader ≠ none →
      Framed f ds s

/-- A read more that the scanner accepts. -/
theorem Framed.concat {f : Foundation} {ds : List Data} {s s' : HTTPStreamScanner} {d : Data} {r : ScannerResult}
    (h : Framed f ds s) (hrun : Lts.run (advance f) .initial ds = some s) (ha : s.Answered d)
    (hr : s.input f d = some (s', .ok r)) : Framed f (ds ++ [d]) s' := by
  have hres := results_concat hrun hr
  cases h with
  | initial hds hs =>
    subst hds hs
    rw [List.nil_append] at *
    rcases input_ok hr with ⟨-, header, hparse, rfl, rfl⟩ | ⟨⟨length, hact⟩, -⟩
    · obtain ⟨htunnel, hcount⟩ := accept_first (s := .initial) rfl header
      cases hconn : header.isConnect with
      | true => exact .tunnel d header [] rfl hparse hconn hres (htunnel hconn)
      | false =>
        obtain ⟨hcount, hdue⟩ := hcount hconn
        refine .messages ?_ hcount ?_
        · rw [hres, hdue]
          exact Messages.start.header hparse
        · rw [currentHeader_accept]; exact Option.some_ne_none _
    · cases hact
  | tunnel d₀ header contents hds hparse hconn hold htunnel =>
    obtain ⟨rfl, htunnel⟩ := htunnel.input hr
    refine .tunnel d₀ header (contents ++ [d]) ?_ hparse hconn ?_ htunnel
    · rw [hds, List.cons_append]
    · rw [hres, hold, List.map_append, List.cons_append, List.map_singleton]
  | messages hm hcount hcur =>
    obtain ⟨hcount, hcur, hnext⟩ := hcount.input hcur ha hr
    refine .messages ?_ hcount hcur
    rw [hres]
    exact hnext hm

theorem framed_run {f : Foundation} {ds : List Data} {s : HTTPStreamScanner}
    (hans : Lts.Meets (advance f) Answered .initial ds) (hrun : Lts.run (advance f) .initial ds = some s) :
    Framed f ds s := by
  induction ds using List.reverseRecOn generalizing s with
  | nil =>
    cases hrun
    exact .initial rfl rfl
  | append_singleton ds d ih =>
    obtain ⟨t, hds, hd⟩ := Lts.run_append_some.1 hrun
    obtain ⟨hans, hlast⟩ := Lts.meets_append.1 hans
    rw [Lts.run_cons_some] at hd
    obtain ⟨u, hd, hnil⟩ := hd
    cases hnil
    obtain ⟨r, hr⟩ := advance_eq_some.1 hd
    exact (ih hans hds).concat hds (Lts.meets_cons.1 (hlast t hds)).1 hr

/-- A scanner that has refused nothing has something to read. -/
theorem Framed.request_isSome {f : Foundation} {ds : List Data} {s : HTTPStreamScanner} (h : Framed f ds s) :
    ∃ r, s.request = some r := by
  have hcontent {length : Int} (hact : s.nextAction = .readContent length) : ∃ r, s.request = some r := by
    rw [request, hact]
    dsimp only
    split
    · exact ⟨_, rfl⟩
    · exact ⟨_, rfl⟩
  cases h with
  | initial hds hs =>
    subst hs
    exact ⟨_, rfl⟩
  | tunnel d h contents hds hparse hconn hres htunnel => exact hcontent htunnel.nextAction
  | messages hm hcount hcur =>
    have hact := hcount.nextAction
    unfold setNextAction at hact
    split at hact
    · exact ⟨.pattern DoubleCRLF, by rw [request, hact]⟩
    · split at hact
      · exact hcontent hact
      · exact hcontent hact

/-- Only a header that announces a negative length leaves less than nothing due. -/
theorem Messages.negative {f : Foundation} {ds : List Data} {rs : List ScannerResult} {due : Int}
    (h : Messages f ds rs due) (hneg : due < 0) : ∃ header, rs.getLast? = some (.header header) ∧ header.contentLength = due := by
  cases h with
  | start => omega
  | header hm hparse => exact ⟨_, List.getLast?_concat, rfl⟩
  | content hm hpos hle => omega

theorem input_contentIsTooLong {f : Foundation} {s s' : HTTPStreamScanner} {d : Data}
    (h : s.input f d = some (s', .error .contentIsTooLong)) :
    (∃ length, s.nextAction = .readContent length) ∧ s.isConnect = false ∧ s.remainContentLength < d.length := by
  unfold input at h
  split at h
  · -- a header is refused for other reasons
    split at h
    · rename_i e hread
      cases h
      unfold readHeader at hread
      split at hread
      · cases hread
      · split at hread
        · cases hread
        · split at hread <;> cases hread
    · cases h
  · rename_i length hact
    dsimp only at h
    split at h
    · cases h
    · split at h
      · rename_i hover
        simp only [Bool.and_eq_true, Bool.not_eq_true', decide_eq_true_eq] at hover
        exact ⟨⟨length, hact⟩, hover.1, by omega⟩
      · cases h
  · cases h

/-- Reads that are answered with what they ask for and accepted are one `CONNECT` header with content ever
after, or messages: each header, then as much content as it announces in blocks of at most 10240 bytes,
then the next. The one way to exceed what is due is a header that announces a negative length. -/
theorem framing {f : Foundation} {ds : List Data} {s : HTTPStreamScanner}
    (hans : Lts.Meets (advance f) Answered .initial ds) (hrun : Lts.run (advance f) .initial ds = some s) :
    ((∃ d h contents, ds = d :: contents ∧ HTTPHeader.ofData f d = .ok h ∧ h.isConnect = true ∧
        results f .initial ds = .header h :: contents.map .content) ∨
      Messages f ds (results f .initial ds) s.remainContentLength) ∧
      ∀ d s', s.Answered d → s.input f d = some (s', .error .contentIsTooLong) →
        ∃ h, (results f .initial ds).getLast? = some (.header h) ∧ h.contentLength < 0 := by
  have hframed := framed_run hans hrun
  constructor
  · cases hframed with
    | initial hds hs =>
      subst hds hs
      exact .inr .start
    | tunnel d h contents hds hparse hconn hres htunnel => exact .inl ⟨d, h, contents, hds, hparse, hconn, hres⟩
    | messages hm hcount hcur => exact .inr hm
  · intro d s' ha hlong
    obtain ⟨⟨length, hact⟩, hconn, hover⟩ := input_contentIsTooLong hlong
    cases hframed with
    | initial hds hs =>
      subst hs
      cases hact
    | tunnel d h contents hds hparse hconn' hres htunnel =>
      rw [htunnel.isConnect] at hconn
      cases hconn
    | messages hm hcount hcur =>
      have hneg : s.remainContentLength < 0 := by
        rcases hcount.answered ha with ⟨hother, -⟩ | ⟨-, hlen, hdue⟩
        · rw [hact] at hother; cases hother
        · omega
      obtain ⟨header, hlast, hlength⟩ := hm.negative hneg
      exact ⟨header, hlast, by omega⟩

theorem framing_post : ∃ f d s, Lts.run (advance f) .initial [d, [1, 2, 3]] = some s ∧ s.request = some (.pattern DoubleCRLF) ∧
    ((∃ d' h contents, [d, [1, 2, 3]] = d' :: contents ∧ HTTPHeader.ofData f d' = .ok h ∧ h.isConnect = true ∧
        results f .initial [d, [1, 2, 3]] = .header h :: contents.map .content) ∨
      Messages f [d, [1, 2, 3]] (results f .initial [d, [1, 2, 3]]) s.remainContentLength) := by
  let t := "POST http://a.b/ HTTP/1.1\r\nHost: a.b\r\nContent-Length: 3\r\n\r\n".toList
  let header : HTTPHeader :=
    { HTTPVersion := "HTTP/1.1".toList, method := "POST".toList, isConnect := false, path := "http://a.b/".toList,
      host := "a.b".toList, port := 80, contentLength := 3,
      headers := [("Host".toList, "a.b".toList), ("Content-Length".toList, "3".toList)] }
  let f : Foundation := .fixed ⟨some "a.b".toList, none⟩
  have hparse : HTTPHeader.ofData f (encodeUTF8 t) = .ok header := by
    rw [HTTPHeader.ofData, decodeUTF8_encodeUTF8]
    decide
  have hfirst : advance f .initial (encodeUTF8 t) = some (accept .initial header) := by
    have hread : readHeader f .initial (encodeUTF8 t) = .ok header := by
      rw [readHeader, hparse]; rfl
    rw [advance, input, hread]; rfl
  have hsecond : advance f (accept .initial header) [1, 2, 3] =
      some { accept .initial header with nextAction := .readHeader, remainContentLength := 0 } := by decide
  have hrun : Lts.run (advance f) .initial [encodeUTF8 t, [1, 2, 3]] =
      some { accept .initial header with nextAction := .readHeader, remainContentLength := 0 } := by
    rw [Lts.run_cons, hfirst, Option.bind_some, Lts.run_cons, hsecond]; rfl
  have hans : Lts.Meets (advance f) Answered .initial [encodeUTF8 t, [1, 2, 3]] := by
    rw [Lts.meets_cons, hfirst]
    refine ⟨⟨.pattern DoubleCRLF, rfl, by decide⟩, ?_⟩
    rintro s hs
    cases hs
    rw [Lts.meets_cons]
    exact ⟨⟨.length 3, rfl, by decide⟩, fun s _ => trivial⟩
  exact ⟨f, encodeUTF8 t, _, hrun, rfl, (framing hans hrun).1⟩

end HTTPStreamScanner

end VpnSs.NEKit
