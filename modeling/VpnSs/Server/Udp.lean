/-
The UDP server and client of the tunnel. Each uses one buffer for everything it receives and sends, and
clears it before each use: a reply of the server depends on nothing but the number of bytes it stored.
Both let a receive fill the whole buffer, and what they print then is a string only if a zero was
received.
-/
import VpnSs.Lib.Buffer
import Mathlib.Algebra.Group.Nat.Defs
import Mathlib.Data.List.Forall2

namespace VpnSs.Server

def BUFF_LEN : Nat := 1024

/-! ## Texts -/

def ascii (s : String) : List UInt8 := s.toList.map Char.toUInt8

/-- The digits of a number. -/
def numeral (n : Nat) : List UInt8 := (Nat.toDigits 10 n).map Char.toUInt8

/-- `%d` and `%ld`. -/
def decimal : Int → List UInt8
  | .ofNat n => numeral n
  | .negSucc n => ascii "-" ++ numeral (n + 1)

/-- What the server answers to `count` bytes. -/
def acknowledgement (count : Int) : List UInt8 := ascii "I have recieved " ++ decimal count ++ ascii " bytes data!\n"

/-- The text of the client's message. -/
def message (count : Int) : List UInt8 := ascii "Test udp msg " ++ decimal count ++ ascii "!\n"

/-! ## The server -/

structure Datagram (Addr : Type) where
  sender : Addr
  payload : List UInt8

/-- One turn of the server's loop: the buffer it prints as the client's text, and the buffer it prints as
its own and sends to `dest`, all of it. -/
structure Round (Addr : Type) where
  client : Buffer BUFF_LEN
  dest : Addr
  server : Buffer BUFF_LEN

section Server

variable {Addr : Type}

/-- The body of the loop. `printf` reads the buffer and leaves it as it is, also where it finds no zero in it. -/
def Round.ofDatagram (buf : Buffer BUFF_LEN) (d : Datagram Addr) : Option (Round Addr) := do
  let (client, count) := buf.bzero.recvfrom d.payload
  let server ← client.bzero.sprintf (acknowledgement count)
  return { client, dest := d.sender, server }

/-- `handle_udp_datagram`, for what `recvfrom` returns with, one after the other: a datagram, or `ANET_ERR`,
which ends the loop. -/
def handleUdpDatagram (buf : Buffer BUFF_LEN) : List (Option (Datagram Addr)) → Option (List (Round Addr))
  | [] => some []
  | none :: _ => some []
  | some d :: rest => do
    let round ← Round.ofDatagram buf d
    let rounds ← handleUdpDatagram round.server rest
    return round :: rounds

/-- The datagrams the server gets to see. -/
def received : List (Option (Datagram Addr)) → List (Datagram Addr)
  | some d :: rest => d :: received rest
  | _ => []

/-- The number of bytes stored of a datagram. -/
def Datagram.stored (d : Datagram Addr) : Nat := (d.payload.take BUFF_LEN).length

/-- Where a reply goes, and its bytes. -/
def Round.reply (r : Round Addr) : Addr × List UInt8 := (r.dest, r.server.bytes)

/-! ## The client -/

/-- One turn of the client's loop: the buffer it prints as its own text and sends, and the buffer it prints
as the server's. -/
structure Turn (Addr : Type) where
  client : Buffer BUFF_LEN
  dest : Addr
  server : Buffer BUFF_LEN

/-- A receive whose result is not looked at: one that fails stores nothing. -/
def receive (buf : Buffer BUFF_LEN) : Option (List UInt8) → Buffer BUFF_LEN
  | none => buf
  | some payload => (buf.recvfrom payload).1

/-- `udp_msg_sender`, for the replies `recvfrom` returns with. The counter is an `int`. -/
def udpMsgSender (dst : Addr) (buf : Buffer BUFF_LEN) (count : BitVec 32) :
    List (Option (List UInt8)) → Option (List (Turn Addr))
  | [] => some []
  | reply :: rest => do
    let client ← buf.bzero.sprintf (message count.toInt)
    let server := receive client.bzero reply
    let turns ← udpMsgSender dst server (count + 1) rest
    return { client, dest := dst, server } :: turns

end Server

/-! ## The texts fit -/

theorem length_numeral_le {n k : Nat} (hk : 0 < k) (h : n < 10 ^ k) : (numeral n).length ≤ k := by
  rw [numeral, List.length_map]
  exact (Nat.length_toDigits_le_iff (by decide) hk).2 h

theorem length_acknowledgement_lt {count : Nat} (h : count ≤ BUFF_LEN) : (acknowledgement count).length < BUFF_LEN := by
  have hdigits : (numeral count).length ≤ 4 := length_numeral_le (by decide) (Nat.lt_of_le_of_lt h (by decide))
  have hparts : (acknowledgement count).length = 16 + (numeral count).length + 13 := by
    simp only [acknowledgement, List.length_append]
    rfl
  rw [hparts]
  unfold BUFF_LEN
  omega

theorem length_message_lt (count : BitVec 32) : (message count.toInt).length < BUFF_LEN := by
  have hlo := BitVec.le_toInt count
  have hhi := BitVec.toInt_lt (x := count)
  have hdigits : (decimal count.toInt).length ≤ 11 := by
    cases hc : count.toInt with
    | ofNat n =>
      have hlt : (n : Int) < 2 ^ 31 := by rw [hc] at hhi; exact hhi
      exact Nat.le_trans (length_numeral_le (k := 10) (by decide) (by omega)) (by decide)
    | negSucc n =>
      have hn : (numeral (n + 1)).length ≤ 10 := length_numeral_le (by decide) (by omega)
      rw [decimal, List.length_append]
      exact Nat.add_le_add (Nat.le_refl 1) hn
  have hparts : (message count.toInt).length = 13 + (decimal count.toInt).length + 2 := by
    simp only [message, List.length_append]
    rfl
  rw [hparts]
  unfold BUFF_LEN
  omega

/-! ## What a turn leaves in the buffer -/

/-- The bytes of a reply to `count` bytes: the acknowledgement, and zeros. -/
def replyBytes (count : Nat) : List UInt8 :=
  acknowledgement count ++ List.replicate (BUFF_LEN - (acknowledgement count).length) 0

section Loops

variable {Addr : Type}

/-- A turn of the server answers the datagram, whatever the buffer held. -/
structure Answers (d : Datagram Addr) (r : Round Addr) : Prop where
  client : ∃ buf : Buffer BUFF_LEN, r.client = (buf.bzero.recvfrom d.payload).1
  dest : r.dest = d.sender
  server : r.server.bytes = replyBytes d.stored

theorem ofDatagram_answers (buf : Buffer BUFF_LEN) (d : Datagram Addr) :
    ∃ r, Round.ofDatagram buf d = some r ∧ Answers d r := by
  have hcount : d.stored ≤ BUFF_LEN := List.length_take_le ..
  obtain ⟨server, hserver, hbytes⟩ :=
    (buf.bzero.recvfrom d.payload).1.sprintf_bzero (length_acknowledgement_lt hcount)
  refine ⟨{ client := (buf.bzero.recvfrom d.payload).1, dest := d.sender, server }, ?_, ⟨⟨buf, rfl⟩, rfl, hbytes⟩⟩
  show ((buf.bzero.recvfrom d.payload).1.bzero.sprintf (acknowledgement d.stored)).bind _ = _
  rw [hserver]; rfl

/-- The server answers every datagram until the first error. -/
theorem handleUdpDatagram_answers (buf : Buffer BUFF_LEN) (rs : List (Option (Datagram Addr))) :
    ∃ rounds, handleUdpDatagram buf rs = some rounds ∧ List.Forall₂ Answers (received rs) rounds := by
  induction rs generalizing buf with
  | nil => exact ⟨[], rfl, .nil⟩
  | cons r rs ih =>
    cases r with
    | none => exact ⟨[], rfl, .nil⟩
    | some d =>
      obtain ⟨round, hround, ha⟩ := ofDatagram_answers buf d
      obtain ⟨rounds, hrounds, has⟩ := ih round.server
      refine ⟨round :: rounds, ?_, .cons ha has⟩
      simp only [handleUdpDatagram, hround, hrounds, Option.bind_eq_bind, Option.bind_some, Option.pure_def]

/-- A turn of the client receives a reply in a cleared buffer. -/
structure Receives (dst : Addr) (reply : Option (List UInt8)) (t : Turn Addr) : Prop where
  dest : t.dest = dst
  server : ∃ buf : Buffer BUFF_LEN, t.server = receive buf.bzero reply

theorem udpMsgSender_receives (dst : Addr) (buf : Buffer BUFF_LEN) (count : BitVec 32)
    (replies : List (Option (List UInt8))) :
    ∃ turns, udpMsgSender dst buf count replies = some turns ∧ List.Forall₂ (Receives dst) replies turns := by
  induction replies generalizing buf count with
  | nil => exact ⟨[], rfl, .nil⟩
  | cons reply replies ih =>
    obtain ⟨client, hclient, -⟩ := buf.sprintf_bzero (length_message_lt count)
    obtain ⟨turns, hturns, hr⟩ := ih (receive client.bzero reply) (count + 1)
    refine ⟨{ client, dest := dst, server := receive client.bzero reply } :: turns, ?_, .cons ⟨rfl, client, rfl⟩ hr⟩
    simp only [udpMsgSender, hclient, hturns, Option.bind_eq_bind, Option.bind_some, Option.pure_def]

/-! ## Replies -/

theorem map_reply {ds : List (Datagram Addr)} {rounds : List (Round Addr)} (h : List.Forall₂ Answers ds rounds) :
    rounds.map Round.reply = ds.map fun d => (d.sender, replyBytes d.stored) := by
  induction h with
  | nil => rfl
  | cons ha _ ih => rw [List.map_cons, List.map_cons, ih, Round.reply, ha.dest, ha.server]

/-- The reply to a datagram is found where the datagram was. -/
theorem getElem?_reply {ds : List (Datagram Addr)} {rounds : List (Round Addr)} (h : List.Forall₂ Answers ds rounds)
    {i : Nat} {d : Datagram Addr} (hd : ds[i]? = some d) :
    ∃ r, rounds[i]? = some r ∧ r.server.bytes = replyBytes d.stored := by
  have hi := congrArg (fun l => l[i]?) (map_reply h)
  simp only [List.getElem?_map, hd, Option.map_some, Option.map_eq_some_iff] at hi
  obtain ⟨r, hr, hreply⟩ := hi
  exact ⟨r, hr, congrArg Prod.snd hreply⟩

/-- Every datagram is answered to its sender with the acknowledgement of the bytes stored of it, followed
by zeros. So two servers that store as many bytes of their `i`-th datagrams send the same bytes,
whatever these and the earlier datagrams contained. -/
theorem reply_eq (buf buf' : Buffer BUFF_LEN) (rs rs' : List (Option (Datagram Addr))) :
    ∃ rounds rounds', handleUdpDatagram buf rs = some rounds ∧ handleUdpDatagram buf' rs' = some rounds' ∧
      (rounds.map Round.reply = (received rs).map fun d => (d.sender, replyBytes d.stored)) ∧
      ∀ (i : Nat) (d d' : Datagram Addr), (received rs)[i]? = some d → (received rs')[i]? = some d' →
        d.stored = d'.stored →
          ∃ r r', rounds[i]? = some r ∧ rounds'[i]? = some r' ∧ r.server.bytes = r'.server.bytes := by
  obtain ⟨rounds, hrounds, h⟩ := handleUdpDatagram_answers buf rs
  obtain ⟨rounds', hrounds', h'⟩ := handleUdpDatagram_answers buf' rs'
  refine ⟨rounds, rounds', hrounds, hrounds', map_reply h, ?_⟩
  intro i d d' hd hd' hstored
  obtain ⟨r, hr, hbytes⟩ := getElem?_reply h hd
  obtain ⟨r', hr', hbytes'⟩ := getElem?_reply h' hd'
  exact ⟨r, r', hr, hr', by rw [hbytes, hbytes', hstored]⟩

/-- A buffer that holds something else. -/
def sampleBuffer : Buffer BUFF_LEN := ⟨List.replicate BUFF_LEN 170, List.length_replicate⟩

/-- Different first clients, and three bytes from the second one. -/
theorem reply_eq_sample :
    let rs : List (Option (Datagram Nat)) := [some ⟨1, ascii "secret"⟩, some ⟨2, [1, 2, 3]⟩]
    let rs' : List (Option (Datagram Nat)) := [some ⟨3, []⟩, some ⟨4, [7, 8, 9]⟩]
    ∃ rounds rounds', handleUdpDatagram sampleBuffer rs = some rounds ∧
      handleUdpDatagram sampleBuffer rs' = some rounds' ∧
        ∃ r r', rounds[1]? = some r ∧ rounds'[1]? = some r' ∧ r.server.bytes = r'.server.bytes := by
  intro rs rs'
  obtain ⟨rounds, rounds', h, h', -, hreply⟩ := reply_eq sampleBuffer sampleBuffer rs rs'
  exact ⟨rounds, rounds', h, h', hreply 1 ⟨2, [1, 2, 3]⟩ ⟨4, [7, 8, 9]⟩ rfl rfl rfl⟩

/-! ## Received text -/

/-- The buffer handed to `printf` holds a string, which is the payload up to its first zero. -/
def PrintsReceived (buf : Buffer BUFF_LEN) (payload : List UInt8) : Prop :=
  buf.Terminated ∧ buf.cString = some (payload.takeWhile fun c => c != 0)

theorem printsReceived_recvfrom (buf : Buffer BUFF_LEN) (payload : List UInt8) :
    PrintsReceived (buf.bzero.recvfrom payload).1 payload ↔ Buffer.Fits BUFF_LEN payload := by
  rw [PrintsReceived, Buffer.terminated_recvfrom_bzero, Buffer.cString_recvfrom_bzero, and_self_iff]

/-- In every run of the server, and in every run of the client, a received text is printed as the payload up
to its first zero exactly when the payload is shorter than the buffer or has a zero among the bytes that
are stored. A receive that fails counts as an empty reply. -/
theorem printsReceived_iff (dst : Addr) (buf : Buffer BUFF_LEN) :
    (∀ rs : List (Option (Datagram Addr)), ∃ rounds, handleUdpDatagram buf rs = some rounds ∧
      List.Forall₂ (fun d r => PrintsReceived r.client d.payload ↔ Buffer.Fits BUFF_LEN d.payload) (received rs) rounds) ∧
    ∀ (count : BitVec 32) (replies : List (Option (List UInt8))), ∃ turns,
      udpMsgSender dst buf count replies = some turns ∧
        List.Forall₂ (fun reply t => PrintsReceived t.server (reply.getD []) ↔ Buffer.Fits BUFF_LEN (reply.getD []))
          replies turns := by
  constructor
  · intro rs
    obtain ⟨rounds, hrounds, h⟩ := handleUdpDatagram_answers buf rs
    refine ⟨rounds, hrounds, h.imp ?_⟩
    intro d r ha
    obtain ⟨buf, hclient⟩ := ha.client
    rw [hclient]
    exact printsReceived_recvfrom buf d.payload
  · intro count replies
    obtain ⟨turns, hturns, h⟩ := udpMsgSender_receives dst buf count replies
    refine ⟨turns, hturns, h.imp ?_⟩
    intro reply t hr
    obtain ⟨buf, hserver⟩ := hr.server
    have hreceive : receive buf.bzero reply = (buf.bzero.recvfrom (reply.getD [])).1 := by
      cases reply with
      | none => exact (Buffer.recvfrom_nil _).symm
      | some payload => rfl
    rw [hserver, hreceive]
    exact printsReceived_recvfrom buf _

/-- As many bytes as the buffer has, none of them zero: it is printed with no zero in it. -/
theorem full_buffer_unterminated :
    (∃ r, handleUdpDatagram sampleBuffer [some ⟨1, List.replicate BUFF_LEN 65⟩] = some [(r : Round Nat)] ∧
      ¬r.client.Terminated) ∧
    ∃ t, udpMsgSender 1 sampleBuffer 0 [some (List.replicate BUFF_LEN 65)] = some [(t : Turn Nat)] ∧
      ¬t.server.Terminated := by
  have hfull : ¬Buffer.Fits BUFF_LEN (List.replicate BUFF_LEN 65) := by
    simp [Buffer.Fits, List.mem_replicate]
  constructor
  · obtain ⟨rounds, hrounds, h⟩ :=
      handleUdpDatagram_answers sampleBuffer [some ⟨(1 : Nat), List.replicate BUFF_LEN 65⟩]
    obtain ⟨r, _, ha, hnil, rfl⟩ := List.forall₂_cons_left_iff.1 h
    cases hnil
    obtain ⟨buf, hclient⟩ := ha.client
    exact ⟨r, hrounds, by rwa [hclient, Buffer.terminated_recvfrom_bzero]⟩
  · obtain ⟨turns, hturns, h⟩ := udpMsgSender_receives (1 : Nat) sampleBuffer 0 [some (List.replicate BUFF_LEN 65)]
    obtain ⟨t, _, hr, hnil, rfl⟩ := List.forall₂_cons_left_iff.1 h
    cases hnil
    obtain ⟨buf, hserver⟩ := hr.server
    exact ⟨t, hturns, by rwa [hserver, receive, Buffer.terminated_recvfrom_bzero]⟩

end Loops

end VpnSs.Server
