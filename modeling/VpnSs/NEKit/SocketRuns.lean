/-
What `NWTCPSocket` keeps to in every run: the contract of a raw socket, the bytes it carries, and how it
comes to its end.
-/
import VpnSs.NEKit.Contract

namespace VpnSs.NEKit

open VpnSs.Swift

namespace NWTCPSocket

open RawSocket (Exchange)

/-! ## What runs on the queue -/

section Queue

variable {s : NWTCPSocket} {c : NWTCPConnection} {raw : RawSocket} {queue : List Block}

/-- What a delegate is told that the contract allows is told; without a delegate nothing is. -/
theorem run_tell {raw' : RawSocket} {e : Exchange} (he : s.delegate = true → raw.exchange RawSocket.answer e = some raw') :
    Lts.run (RawSocket.exchange RawSocket.answer) raw (s.tell e) = some (if s.delegate then raw' else raw) := by
  unfold tell
  split
  · rename_i hd
    rw [Lts.run_cons, he hd]
    rfl
  · rfl

theorem Provided.didConnect (h : Provided s c raw) (hqueue : s.queue = .didConnect :: queue) :
    Keeps raw (runBlock { s with queue } .didConnect) := by
  have honce := h.connecting.once
  rw [hqueue, List.count_cons_self] at honce
  have hopen : raw.connecting = true := by
    cases hc : raw.connecting with
    | true => rfl
    | false => rw [hc, Bool.toNat_false] at honce; omega
  rw [hopen, Bool.toNat_true] at honce
  have hstanding : Standing { s with queue } c raw := h.standing.pop hqueue (by decide)
  have hcloses : Closes { s with queue } c := h.closes.pop hqueue (by decide)
  have hwriting : Writing { s with queue } c raw := h.writing.pop hqueue rfl
  have hreading : Reading { s with queue } c raw := h.reading.pop hqueue rfl
  have hacknowledges : Acknowledges { s with queue } c raw := h.acknowledges.pop hqueue rfl
  refine ⟨_, _, _, rfl, run_tell fun hd =>
    RawSocket.connected_eq_some.2 ⟨h.standing.delegate.trans hd, hopen, rfl⟩, .provided c ?_⟩
  split
  · have hconnected : Connecting { s with queue } c { raw with connecting := false } := by
      refine ⟨?_, fun hraw => (nomatch hraw)⟩
      rw [Bool.toNat_false]
      dsimp only
      omega
    exact ⟨⟨h.connection, { hstanding with }, hconnected, { hwriting with },
      hreading.congr ⟨rfl, rfl, rfl, rfl, id⟩ rfl rfl rfl rfl rfl rfl⟩, hcloses, hacknowledges⟩
  · rename_i hd
    -- without a delegate the connection is lost
    have hstate : c.state = .cancelled := h.standing.left (Bool.eq_false_iff.2 hd)
    refine ⟨⟨h.connection, hstanding, ⟨?_, fun _ => .inr (.inr ?_)⟩, hwriting, hreading⟩, hcloses, hacknowledges⟩
    · rw [hopen, Bool.toNat_true]
      dsimp only
      omega
    · rw [hstate]
      decide

theorem Provided.didDisconnect (h : Provided s c raw) (hqueue : s.queue = .didDisconnect :: queue) :
    Keeps raw (runBlock { s with queue } .didDisconnect) := by
  have hstate : c.state = .cancelled := h.standing.leaving (by rw [hqueue]; exact List.mem_cons_self)
  have hstanding : ∀ raw' : RawSocket, raw'.delegate = false → raw'.gone = raw.gone → raw'.ended = raw.ended →
      raw'.closing = raw.closing → Standing { s with queue, delegate := false } c raw' := by
    intro raw' hdelegate hgone hended hclosing
    refine { h.standing with
      delegate := hdelegate, gone := hgone.trans h.standing.gone, ended := hended.trans h.standing.ended
      left := fun _ => hstate, closing := ?_, leaves := ?_, departs := fun _ => .inl rfl, leaving := fun _ => hstate }
    · rw [hclosing]; exact h.standing.closing
    · intro _; exact .inr (h.standing.state hstate)
  have hcloses : Closes { s with queue, delegate := false } c := fun _ => .inr (.inr (h.standing.state hstate))
  have hconnecting : Connecting { s with queue } c raw := h.connecting.pop hqueue (by decide)
  have hwriting : Writing { s with queue } c raw := h.writing.pop hqueue rfl
  have hreading : Reading { s with queue } c raw := h.reading.pop hqueue rfl
  have hacknowledges : Acknowledges { s with queue } c raw := h.acknowledges.pop hqueue rfl
  refine ⟨_, _, _, rfl, run_tell fun hd =>
    RawSocket.disconnected_eq_some.2 ⟨h.standing.delegate.trans hd, rfl⟩, .provided c ?_⟩
  split
  · exact ⟨⟨h.connection, hstanding _ rfl rfl rfl rfl, { hconnecting with }, { hwriting with },
      hreading.congr ⟨rfl, rfl, rfl, rfl, id⟩ rfl rfl rfl rfl rfl rfl⟩, hcloses, hacknowledges⟩
  · rename_i hd
    have hgone : raw.delegate = false := h.standing.delegate.trans (Bool.eq_false_iff.2 hd)
    exact ⟨⟨h.connection, hstanding _ hgone rfl rfl rfl, { hconnecting with }, { hwriting with },
      hreading.congr ⟨rfl, rfl, rfl, rfl, id⟩ rfl rfl rfl rfl rfl rfl⟩, hcloses, hacknowledges⟩

/-- The socket disconnects itself. -/
theorem Attached.fail (h : Attached s c raw) :
    Keeps raw (some (s.disconnect.1, if s.disconnect.2 then [.failed] else [])) := by
  obtain ⟨htold, -⟩ := h.disconnect true
  by_cases hd : s.disconnect.2 = true
  · obtain ⟨c', hc⟩ := (h.disconnect true).2
    rw [hd] at htold
    obtain ⟨hgone, hdelegate⟩ := Bool.and_eq_true_iff.1 htold.symm
    have hfailed : Lts.run (RawSocket.exchange RawSocket.answer) raw [.failed] = some { raw with closing := true } := by
      rw [Lts.run_cons, RawSocket.exchange, RawSocket.failed_eq_some.2 ⟨hdelegate, hgone, rfl⟩]
      rfl
    rw [if_pos hd]
    exact ⟨_, _, _, rfl, hfailed, .provided c' hc⟩
  · obtain ⟨c', hc⟩ := (h.disconnect raw.closing).2
    rw [if_neg hd]
    exact ⟨_, _, _, rfl, rfl, .provided c' hc⟩

/-- A block that ends a write is left behind: there is no other write, and one for the delegate to be told of. -/
theorem Provided.written {error : Bool} (h : Provided s c raw) (hqueue : s.queue = .written error :: queue) :
    Attached { s with queue, writePending := false } c raw ∧ raw.writes = 1 ∧ c.writes = 0 ∧
      queue.countP Block.acknowledges = 0 := by
  have hpending := h.writing.pending
  have hacknowledged := h.writing.acknowledged
  have hsingle := h.writing.single
  rw [hqueue, List.countP_cons_of_pos rfl] at hpending hacknowledged
  have hone : raw.writes = 1 ∧ c.writes = 0 ∧ queue.countP Block.acknowledges = 0 := by omega
  have hnone := countP_isWritten_le queue
  have hreading : Reading { s with queue } c raw := h.reading.pop hqueue rfl
  have hstanding : Standing { s with queue } c raw := h.standing.pop hqueue (by intro heq; cases heq)
  have hconnecting : Connecting { s with queue } c raw := h.connecting.pop hqueue (by intro heq; cases heq)
  refine ⟨⟨h.connection, { hstanding with }, { hconnecting with },
    { h.writing with pending := ?_, acknowledged := ?_ }, hreading.congr ⟨rfl, rfl, rfl, rfl, id⟩ rfl rfl rfl rfl rfl rfl⟩, hone⟩
  · dsimp only [Bool.toNat_false]
    omega
  · dsimp only
    omega

theorem Provided.didWrite (h : Provided s c raw) (hqueue : s.queue = .didWrite :: queue) :
    Keeps raw (runBlock { s with queue } .didWrite) := by
  have hacknowledged := h.writing.acknowledged
  have hsingle := h.writing.single
  have hpending := h.writing.pending
  rw [hqueue, List.countP_cons_of_pos rfl] at hacknowledged
  rw [hqueue, List.countP_cons_of_neg (by decide)] at hpending
  have hone : raw.writes = 0 + 1 := by omega
  have hstanding : Standing { s with queue } c raw := h.standing.pop hqueue (by decide)
  have hcloses : Closes { s with queue } c := h.closes.pop hqueue (by decide)
  have hconnecting : Connecting { s with queue } c raw := h.connecting.pop hqueue (by decide)
  have hreading : Reading { s with queue } c raw := h.reading.pop hqueue rfl
  refine ⟨_, _, _, rfl, run_tell fun hd =>
    RawSocket.acknowledge_eq_some.2 ⟨h.standing.delegate.trans hd, 0, hone, rfl⟩, .provided c ?_⟩
  split
  · refine ⟨⟨h.connection, { hstanding with }, { hconnecting with }, ?_,
      hreading.congr ⟨rfl, rfl, rfl, rfl, id⟩ rfl rfl rfl rfl rfl rfl⟩, hcloses, fun _ => Nat.zero_le _⟩
    refine { h.writing with pending := hpending, acknowledged := ?_, single := Nat.zero_le 1 }
    dsimp only
    omega
  · rename_i hd
    have hcancelled : s.cancelled = true := h.standing.cancelled (Bool.eq_false_iff.2 hd)
    refine ⟨⟨h.connection, hstanding, hconnecting, ?_, hreading⟩, hcloses,
      fun hopen => absurd hcancelled (Bool.eq_false_iff.1 hopen)⟩
    refine { h.writing with pending := hpending, acknowledged := ?_ }
    dsimp only
    omega

theorem Provided.runWritten {error : Bool} (h : Provided s c raw) (hqueue : s.queue = .written error :: queue) :
    Keeps raw (runBlock { s with queue } (.written error)) := by
  obtain ⟨hattached, hone, hidle, hnone⟩ := h.written hqueue
  cases error with
  | true => exact hattached.fail
  | false =>
    have hstanding : Standing { s with queue := .checkStatus :: queue, writePending := false } c raw := by
      refine { hattached.standing with departs := ?_, leaving := ?_ }
      · intro hst
        exact (hattached.standing.departs hst).imp_right (List.mem_cons_of_mem _)
      · intro hmem
        exact hattached.standing.leaving (by simpa using hmem)
    have hconnecting : Connecting { s with queue := .checkStatus :: queue, writePending := false } c raw := by
      refine ⟨?_, fun hraw => (hattached.connecting.waits hraw).imp_right (Or.imp_left (List.mem_cons_of_mem _))⟩
      rw [List.count_cons_of_ne (by decide)]
      exact hattached.connecting.once
    have hreading : Reading { s with queue := .checkStatus :: queue, writePending := false } c raw :=
      hattached.reading.congr ⟨rfl, rfl, rfl, List.filterMap_cons_none rfl, id⟩ rfl rfl rfl rfl rfl rfl
    have hcloses : Closes { s with queue := .checkStatus :: queue, writePending := false } c :=
      fun _ => .inr (.inl List.mem_cons_self)
    refine ⟨_, _, _, rfl, run_tell fun hd =>
      RawSocket.acknowledge_eq_some.2 ⟨h.standing.delegate.trans hd, 0, hone, rfl⟩, .provided c ?_⟩
    have hpending : (false).toNat = c.writes + (Block.checkStatus :: queue).countP Block.isWritten := by
      have := countP_isWritten_le queue
      rw [List.countP_cons_of_neg (by decide), Bool.toNat_false]
      omega
    have hacknowledged : c.writes + (Block.checkStatus :: queue).countP Block.acknowledges = 0 := by
      rw [List.countP_cons_of_neg (by decide)]
      omega
    split
    · refine ⟨⟨h.connection, { hstanding with }, { hconnecting with }, ?_,
        hreading.congr ⟨rfl, rfl, rfl, rfl, id⟩ rfl rfl rfl rfl rfl rfl⟩, hcloses, fun _ => Nat.zero_le _⟩
      exact { h.writing with pending := hpending, acknowledged := hacknowledged.le, single := Nat.zero_le 1 }
    · rename_i hd
      have hcancelled : s.cancelled = true := h.standing.cancelled (Bool.eq_false_iff.2 hd)
      refine ⟨⟨h.connection, hstanding, hconnecting, ?_, hreading⟩, hcloses,
        fun hopen => absurd hcancelled (Bool.eq_false_iff.1 hopen)⟩
      exact { h.writing with pending := hpending, acknowledged := hacknowledged.le.trans (Nat.zero_le _) }

theorem Provided.checkStatus (h : Provided s c raw) (hqueue : s.queue = .checkStatus :: queue) :
    Keeps raw (runBlock { s with queue } .checkStatus) := by
  have hattached : Attached { s with queue } c raw :=
    ⟨h.connection, h.standing.pop hqueue (by decide), h.connecting.pop hqueue (by decide), h.writing.pop hqueue rfl,
      h.reading.pop hqueue rfl⟩
  refine ⟨_, _, raw, rfl, rfl, ?_⟩
  unfold NWTCPSocket.checkStatus
  split
  · rename_i hcl
    have hcancelled : s.cancelled = true := h.standing.closeAfterWriting (Bool.and_eq_true_iff.1 hcl).1
    have heq : ({ s with queue, cancelled := true } : NWTCPSocket) = { s with queue } := by rw [← hcancelled]
    have hleave := hattached.cancel raw.closing s.closeAfterWriting
    dsimp only at hleave
    rw [heq] at hleave
    exact .provided _ hleave
  · rename_i hcl
    refine .provided c ⟨hattached, ?_, h.acknowledges.pop hqueue rfl⟩
    intro hclose
    rw [hclose] at hcl
    exact .inl (by simpa using hcl)

/-! ## The block that answers a read -/

/-- What comes of the data and of what was held over before it. -/
theorem consumeReadData_cases (s : NWTCPSocket) (data : Option Data) :
    s.readDataPrefix = none ∧ data = none ∧ s.consumeReadData data = ({ s with readDataPrefix := none }, none) ∨
      (s.readDataPrefix ≠ none ∨ data ≠ none) ∧ s.consumeReadData data =
        ({ s with readDataPrefix := none }, some (s.readDataPrefix.getD [] ++ data.getD [])) := by
  unfold consumeReadData
  rcases s.readDataPrefix with _ | pre
  · rcases data with _ | data
    · exact .inl ⟨rfl, rfl, rfl⟩
    · exact .inr ⟨.inr (Option.some_ne_none _), rfl⟩
  · refine .inr ⟨.inl (Option.some_ne_none _), ?_⟩
    rcases data with _ | data
    · rw [Option.getD_none, List.append_nil]; rfl
    · rfl

/-- What came for the read answers it behind what was held over; without anything the stream has ended. -/
theorem Awaits.answers {r : ReadRequest} {minimum maximum : Nat} {held : Data} {data : Option Data}
    (h : Awaits s raw r minimum maximum held) (hscanning : s.scanning = false) (hended : raw.ended = c.ended)
    (hcame : Came c minimum maximum data) (hsome : s.readDataPrefix ≠ none ∨ data ≠ none) :
    held = [] ∧ raw.Answered (s.readDataPrefix.getD [] ++ data.getD []) none r := by
  cases h with
  | data h1 h2 =>
    refine ⟨rfl, by rw [h2]; exact List.prefix_append _ _, rfl, ?_⟩
    rw [h2, List.length_append]
    rcases data with _ | d
    · refine .inr ⟨hsome.resolve_right (absurd rfl), hended.trans ?_⟩
      by_contra hopen
      obtain ⟨d, hd, -⟩ := hcame.least (Bool.eq_false_iff.2 hopen)
      cases hd
    · have hpos : 0 < d.length := (hcame.gives d rfl).1.elim id List.length_pos_of_ne_nil
      exact .inl (Nat.lt_add_of_pos_right hpos)
  | length n h1 h2 =>
    refine ⟨rfl, by rw [h2]; exact List.prefix_append _ _, rfl, ?_, ?_⟩
    · rw [h2, List.length_append]
      rcases data with _ | d
      · exact Nat.add_le_add_left (Nat.zero_le _) _
      · exact Nat.add_le_add_left (hcame.gives d rfl).2 _
    · by_cases hopen : c.ended = true
      · exact .inr (hended.trans hopen)
      · obtain ⟨d, rfl, hle⟩ := hcame.least (Bool.eq_false_iff.2 hopen)
        refine .inl ?_
        rw [h2, List.length_append]
        exact congrArg _ (Nat.le_antisymm (hcame.gives d rfl).2 hle)
  | pattern p scanner held h1 => rw [hscanning] at h1; cases h1

theorem Provided.deliver {data : Option Data} (h : Provided s c raw) (hqueue : s.queue = .readCallback data :: queue) :
    Keeps raw (runBlock { s with queue } (.readCallback data)) := by
  obtain ⟨r, minimum, maximum, held, hreads, hidle, hnone, hawaits, hcame, hheld⟩ :
      ∃ r minimum maximum held, raw.reads = [r] ∧ c.reads = [] ∧ queue.filterMap Block.answer = [] ∧
        Awaits s raw r minimum maximum held ∧ Came c minimum maximum data ∧
        raw.received.flatten ++ held ++ s.readDataPrefix.getD [] ++ data.getD [] = c.received := by
    have hanswer : s.queue.filterMap Block.answer = data :: queue.filterMap Block.answer := by
      rw [hqueue]; rfl
    cases h.reading with
    | idle h1 h2 h3 => rw [hanswer] at h3; cases h3
    | asked r minimum maximum held h1 h2 h3 => rw [hanswer] at h3; cases h3
    | answered r minimum maximum held data' h1 h2 h3 h4 h5 h6 =>
      rw [hanswer] at h3
      obtain ⟨rfl, hrest⟩ := List.cons.inj h3
      exact ⟨r, minimum, maximum, held, h1, h2, hrest, h4, h5, h6⟩
    | lost h1 h2 h3 => rw [hanswer] at h3; cases h3
  have hdelivered := h.reading.delivered
  have hstanding : Standing { s with queue } c raw := h.standing.pop hqueue (by intro heq; cases heq)
  have hcloses : Closes { s with queue } c := h.closes.pop hqueue (by intro heq; cases heq)
  have hconnecting : Connecting { s with queue } c raw := h.connecting.pop hqueue (by intro heq; cases heq)
  have hwriting : Writing { s with queue } c raw := h.writing.pop hqueue rfl
  have hacknowledges : Acknowledges { s with queue } c raw := h.acknowledges.pop hqueue rfl
  have hwaiting : raw.reads ≠ [] := by rw [hreads]; exact List.cons_ne_nil _ _
  have hleft : ¬s.delegate = true → s.cancelled = true := fun hd => h.standing.cancelled (Bool.eq_false_iff.2 hd)
  rw [runBlock, NWTCPSocket.deliver]
  rcases consumeReadData_cases { s with queue } data with ⟨hpre, rfl, hconsume⟩ | ⟨hsome, hconsume⟩
  · rw [hconsume]
    have hended : c.ended = true := by
      by_contra hopen
      obtain ⟨d, hd, -⟩ := hcame.least (Bool.eq_false_iff.2 hopen)
      cases hd
    exact ⟨_, _, raw, rfl, rfl, .provided c ⟨⟨h.connection, { hstanding with }, { hconnecting with },
      { hwriting with }, .lost hwaiting hidle hnone hdelivered (.inr (.inl hended))⟩, hcloses, hacknowledges⟩⟩
  · rw [hconsume]
    dsimp only
    cases hscanning : s.scanning with
    | false =>
      rw [if_neg Bool.false_ne_true]
      obtain ⟨rfl, hanswers⟩ := hawaits.answers hscanning h.standing.ended hcame hsome
      have hflat : (raw.received ++ [s.readDataPrefix.getD [] ++ data.getD []]).flatten ++ [] = c.received := by
        rw [← hheld]
        simp
      refine ⟨_, _, _, rfl, run_tell fun hd =>
        RawSocket.answer_eq_some.2 ⟨h.standing.delegate.trans hd, r, [], hreads, hanswers, rfl⟩, .provided c ?_⟩
      split
      · exact ⟨⟨h.connection, { hstanding with }, { hconnecting with }, { hwriting with },
          .idle rfl hidle hnone rfl rfl hflat⟩, hcloses, hacknowledges⟩
      · rename_i hd
        exact ⟨⟨h.connection, { hstanding with }, { hconnecting with }, { hwriting with },
          .lost hwaiting hidle hnone hdelivered (.inl (hleft hd))⟩, hcloses, hacknowledges⟩
    | true =>
      rw [if_pos rfl]
      cases hawaits with
      | data h1 => rw [hscanning] at h1; cases h1
      | length _ h1 => rw [hscanning] at h1; cases h1
      | pattern p scanner held h1 hscanner hpattern hmaximum hp hopen =>
        rw [hscanner]
        dsimp only
        obtain ⟨hanswer, hpat, hmax, hnext⟩ := StreamScanner.addAndScan_open hopen (by rw [hpattern]; exact hp)
          (s.readDataPrefix.getD [] ++ data.getD [])
        rcases hscan : scanner.addAndScan (s.readDataPrefix.getD [] ++ data.getD []) with ⟨scanner', _ | ⟨_ | found, rest⟩⟩
        · -- nothing is found yet, and the scanner reads on
          rw [hscan] at hpat hmax hnext
          have hopen' := hnext rfl
          dsimp only at hpat hmax hopen' ⊢
          by_cases hcancelled : s.cancelled = true
          · rw [readData, if_pos hcancelled]
            exact ⟨_, _, raw, rfl, rfl, .provided c ⟨⟨h.connection, { hstanding with }, { hconnecting with },
              { hwriting with }, .lost hwaiting hidle hnone hdelivered (.inl hcancelled)⟩, hcloses, hacknowledges⟩⟩
          · rw [readData, if_neg hcancelled, readConnection]
            dsimp only
            rw [h.connection]
            refine ⟨_, _, raw, rfl, rfl, .provided _ ⟨⟨rfl, { hstanding with }, { hconnecting with },
              { hwriting with }, .asked (.pattern p) 1 MAXNWTCPSocketReadDataSize _ hreads (by rw [hidle]; rfl) hnone
                (.pattern p scanner' _ rfl rfl (hpat.trans hpattern) (hmax.trans hmaximum) hp hopen') ?_⟩,
              hcloses, hacknowledges⟩⟩
            rw [← hheld]
            simp
        · -- the pattern has not shown in the length that is scanned
          rw [hscan, hpattern, hmaximum] at hanswer
          have hlong := StreamScanner.answer_none hanswer.symm
          refine ⟨_, _, raw, rfl, rfl, .provided c ⟨⟨h.connection, { hstanding with }, { hconnecting with },
            { hwriting with }, .lost hwaiting hidle hnone hdelivered (.inr (.inr ?_))⟩, hcloses, hacknowledges⟩⟩
          rw [← hheld]
          simp only [List.length_append] at hlong ⊢
          omega
        · -- what is behind the pattern is held over
          rw [hscan, hpattern] at hanswer
          obtain ⟨hsplit, hsuffix, -⟩ := StreamScanner.answer_match hp hanswer.symm
          refine ⟨_, _, _, rfl, run_tell fun hd =>
            RawSocket.answer_eq_some.2 ⟨h.standing.delegate.trans hd, .pattern p, [], hreads, hsuffix, rfl⟩,
            .provided c ?_⟩
          split
          · refine ⟨⟨h.connection, { hstanding with }, { hconnecting with }, { hwriting with },
              .idle rfl hidle hnone rfl rfl ?_⟩, hcloses, hacknowledges⟩
            have hflat : (raw.received ++ [found]).flatten ++ rest = raw.received.flatten ++ (found ++ rest) := by simp
            dsimp only [Option.getD_some]
            rw [hflat, hsplit, ← hheld]
            simp
          · rename_i hd
            exact ⟨⟨h.connection, { hstanding with }, { hconnecting with }, { hwriting with },
              .lost hwaiting hidle hnone hdelivered (.inl (hleft hd))⟩, hcloses, hacknowledges⟩

end Queue

/-! ## Steps -/

section Step

variable {s s' : NWTCPSocket} {c : NWTCPConnection} {raw : RawSocket} {i : Input}

theorem Unprovided.step (h : Unprovided s raw) (hallow : Allows raw i) (hi : s.happen i = some s') :
    Keeps raw (s'.handle i) := by
  have hgone : s.isGone = true := by rw [isGone, h.connection]; rfl
  have hcancelled : Unprovided { s with cancelled := true } { raw with closing := true } :=
    { h with closing := fun _ => rfl }
  have htold : s.delegate = (raw.gone && raw.delegate) := by rw [h.gone, h.delegate.2]; exact h.delegate.1
  cases i with
  | read r =>
    cases hi
    have hclosing : raw.closing = true := hallow.resolve_right fun hc => by
      rw [h.connecting] at hc; exact absurd hc.1 (by decide)
    have hraw : raw.exchange RawSocket.answer (.read r) = some raw := congrArg some (if_pos hclosing)
    rw [handle, read_of_cancelled (h.closing hclosing)]
    exact ⟨_, _, raw, rfl, by rw [Lts.run_cons, hraw]; rfl, .unprovided h⟩
  | write data =>
    cases hi
    have hclosing : raw.closing = true := hallow.resolve_right fun hc => by
      rw [h.connecting] at hc; exact absurd hc.1 (by decide)
    have hraw : raw.exchange RawSocket.answer (.write data) = some raw := congrArg some (if_pos hclosing)
    have hwrite : s.write data = some s := if_pos (h.closing hclosing)
    rw [handle, hwrite]
    exact ⟨_, _, raw, rfl, by rw [Lts.run_cons, hraw]; rfl, .unprovided h⟩
  | disconnect =>
    cases hi
    have heq : s.disconnect = ({ s with cancelled := true }, s.delegate) := if_pos hgone
    rw [handle, heq]
    refine ⟨_, _, { raw with closing := true }, rfl, ?_, .unprovided hcancelled⟩
    rw [Lts.run_cons, RawSocket.exchange, if_pos htold]
    rfl
  | forceDisconnect =>
    cases hi
    have heq : s.forceDisconnect = ({ s with cancelled := true }, s.delegate) := if_pos hgone
    rw [handle, heq]
    refine ⟨_, _, { raw with closing := true }, rfl, ?_, .unprovided hcancelled⟩
    rw [Lts.run_cons, RawSocket.exchange, if_pos htold]
    rfl
  | block => rw [happen, h.queue] at hi; cases hi
  | stateChanged state => rw [happen, h.connection] at hi; cases hi
  | readCompleted data => rw [happen, h.connection] at hi; cases hi
  | readFailed => rw [happen, h.connection] at hi; cases hi
  | writeCompleted error => rw [happen, h.connection] at hi; cases hi

theorem Provided.block (h : Provided s c raw) (hi : s.happen .block = some s') : Keeps raw (s'.handle .block) := by
  rw [happen] at hi
  split at hi
  · cases hi
  · cases hi
    rw [handle]
    rcases hqueue : s.queue with _ | ⟨block, queue⟩
    · exact ⟨s, [], raw, rfl, rfl, .provided c h⟩
    · cases block with
      | didConnect => exact h.didConnect hqueue
      | didDisconnect => exact h.didDisconnect hqueue
      | disconnect => exact (h.dequeue hqueue rfl rfl (by decide) (by decide) (by decide)).fail
      | readCallback data => exact h.deliver hqueue
      | written error => exact h.runWritten hqueue
      | didWrite => exact h.didWrite hqueue
      | checkStatus => exact h.checkStatus hqueue

theorem Provided.step (h : Provided s c raw) (hallow : Allows raw i) (hi : s.happen i = some s') :
    Keeps raw (s'.handle i) := by
  have hraw : ∀ {e raw'}, raw.exchange RawSocket.answer e = some raw' → Lts.run (RawSocket.exchange RawSocket.answer) raw [e] = some raw' := by
    intro e raw' he
    rw [Lts.run_cons, he]
    rfl
  cases i with
  | read r =>
    cases hi
    obtain ⟨s', hs, c', hc⟩ := h.read hallow
    rw [handle, hs]
    exact ⟨_, _, _, rfl, hraw rfl, .provided c' hc⟩
  | write data =>
    cases hi
    obtain ⟨s', hs, c', hc⟩ := h.write hallow
    rw [handle, hs]
    exact ⟨_, _, _, rfl, hraw rfl, .provided c' hc⟩
  | disconnect =>
    cases hi
    obtain ⟨htold, c', hc⟩ := h.disconnect true
    exact ⟨_, _, _, rfl, hraw (if_pos htold), .provided c' hc⟩
  | forceDisconnect =>
    cases hi
    obtain ⟨htold, c', hc⟩ := h.forceDisconnect
    exact ⟨_, _, _, rfl, hraw (if_pos htold), .provided c' hc⟩
  | block => exact h.block hi
  | stateChanged state =>
    rw [happen, h.connection, Option.bind_some, Option.map_eq_some_iff] at hi
    obtain ⟨c', hc, rfl⟩ := hi
    exact h.stateChanged hc
  | readCompleted data =>
    rw [happen, h.connection, Option.bind_some, Option.map_eq_some_iff] at hi
    obtain ⟨c', hc, rfl⟩ := hi
    exact h.readCompleted hc
  | readFailed =>
    rw [happen, h.connection, Option.bind_some, Option.map_eq_some_iff] at hi
    obtain ⟨c', hc, rfl⟩ := hi
    exact h.readFailed hc
  | writeCompleted error =>
    rw [happen, h.connection, Option.bind_some, Option.map_eq_some_iff] at hi
    obtain ⟨c', hc, rfl⟩ := hi
    exact h.writeCompleted hc

theorem Agrees.step (h : Agrees s raw) (hallow : Allows raw i) (hi : s.happen i = some s') :
    Keeps raw (s'.handle i) := by
  cases h with
  | unprovided h => exact h.step hallow hi
  | provided c h => exact h.step hallow hi

end Step

/-! ## Patience -/

section Patience

variable {s s' : NWTCPSocket} {es : List Exchange} {forced forced' : Prop}

/-- The connection is told to cancel with a write under way only where that is forced, or of no use any more. -/
def Patient (forced : Prop) (s : NWTCPSocket) : Prop :=
  ∀ c, s.connection = some c → c.cancelCalled = true → s.writePending = false ∨ 2 ≤ c.state.rank ∨ forced

/-- Nothing is written, and the connection is not told to cancel. -/
structure Calm (s s' : NWTCPSocket) : Prop where
  writePending : s'.writePending = true → s.writePending = true
  connection : ∀ c', s'.connection = some c' →
    ∃ c, s.connection = some c ∧ c'.cancelCalled = c.cancelCalled ∧ c.state.rank ≤ c'.state.rank

theorem Calm.of_eq (hpending : s'.writePending = s.writePending) (hconnection : s'.connection = s.connection) :
    Calm s s' :=
  ⟨fun h => hpending ▸ h, fun c' h => ⟨c', hconnection ▸ h, rfl, Nat.le_refl _⟩⟩

theorem Calm.trans {t : NWTCPSocket} (h : Calm s t) (h' : Calm t s') : Calm s s' := by
  refine ⟨fun hp => h.writePending (h'.writePending hp), fun c' hc => ?_⟩
  obtain ⟨d, hd, hcalled, hrank⟩ := h'.connection c' hc
  obtain ⟨c, hs, hcalled', hrank'⟩ := h.connection d hd
  exact ⟨c, hs, hcalled.trans hcalled', hrank'.trans hrank⟩

theorem Patient.calm (h : Patient forced s) (hcalm : Calm s s') : Patient forced s' := by
  intro c' hc hcalled
  obtain ⟨c, hs, heq, hrank⟩ := hcalm.connection c' hc
  rcases h c hs (heq ▸ hcalled) with hp | hr | hf
  · exact .inl (Bool.eq_false_iff.2 fun hp' => Bool.eq_false_iff.1 hp (hcalm.writePending hp'))
  · exact .inr (.inl (hr.trans hrank))
  · exact .inr (.inr hf)

theorem Patient.mono (h : Patient forced s) (hforced : forced → forced') : Patient forced' s :=
  fun c hc hcalled => (h c hc hcalled).imp_right (Or.imp_right hforced)

theorem calm_readConnection {minimum maximum : Nat} (h : s.readConnection minimum maximum = some s') : Calm s s' := by
  obtain ⟨c, hc, rfl⟩ := Option.map_eq_some_iff.1 h
  refine ⟨id, fun c' hc' => ⟨c, hc, ?_⟩⟩
  cases hc'
  exact ⟨rfl, Nat.le_refl _⟩

theorem calm_readData (h : s.readData = some s') : Calm s s' := by
  unfold readData at h
  split at h
  · cases h; exact .of_eq rfl rfl
  · exact calm_readConnection h

theorem calm_read {r : ReadRequest} (h : s.read r = some s') : Calm s s' := by
  cases r with
  | data => exact calm_readData h
  | length n =>
    rw [NWTCPSocket.read, readDataToLength] at h
    split at h
    · cases h; exact .of_eq rfl rfl
    · exact calm_readConnection h
  | pattern p =>
    rw [NWTCPSocket.read, readDataToPattern] at h
    split at h
    · cases h; exact .of_eq rfl rfl
    · have hscan : Calm s { s with scanner := some (.create p MAXNWTCPScanLength), scanning := true } := .of_eq rfl rfl
      exact hscan.trans (calm_readData h)

theorem calm_deliver {data : Option Data} (h : s.deliver data = some (s', es)) : Calm s s' := by
  unfold NWTCPSocket.deliver at h
  have hconsume : (s.consumeReadData data).1 = { s with readDataPrefix := none } := rfl
  split at h
  · rename_i t heq
    rw [heq] at hconsume
    cases hconsume
    cases h
    exact .of_eq rfl rfl
  · rename_i t d heq
    rw [heq] at hconsume
    cases hconsume
    split at h
    · split at h
      · cases h
      · split at h
        · obtain ⟨u, hu, hpair⟩ := Option.map_eq_some_iff.1 h
          cases hpair
          rename_i scanner' _
          have hscan : Calm s { s with readDataPrefix := none, scanner := some scanner' } := .of_eq rfl rfl
          exact hscan.trans (calm_readData hu)
        · cases h; exact .of_eq rfl rfl
        · cases h; exact .of_eq rfl rfl
    · cases h; exact .of_eq rfl rfl

/-- What the connection does by itself. -/
theorem calm_connection {f : NWTCPConnection → Option NWTCPConnection}
    (hf : ∀ c c', f c = some c' → c'.cancelCalled = c.cancelCalled ∧ c.state.rank ≤ c'.state.rank)
    (h : (s.connection.bind f).map (fun c => { s with connection := some c }) = some s') : Calm s s' := by
  obtain ⟨c', hc, rfl⟩ := Option.map_eq_some_iff.1 h
  obtain ⟨c, hs, hfc⟩ := Option.bind_eq_some_iff.1 hc
  refine ⟨id, fun d hd => ⟨c, hs, ?_⟩⟩
  cases hd
  exact hf c c' hfc

theorem calm_happen {i : Input} (h : s.happen i = some s') : Calm s s' := by
  have hcomplete : ∀ data c c', NWTCPConnection.complete c data = some c' →
      c'.cancelCalled = c.cancelCalled ∧ c.state.rank ≤ c'.state.rank := by
    intro data c c' hc
    unfold NWTCPConnection.complete at hc
    split at hc
    · cases hc
    · split at hc
      · cases hc; exact ⟨rfl, Nat.le_refl _⟩
      · cases hc
  cases i with
  | read r => cases h; exact .of_eq rfl rfl
  | write data => cases h; exact .of_eq rfl rfl
  | disconnect => cases h; exact .of_eq rfl rfl
  | forceDisconnect => cases h; exact .of_eq rfl rfl
  | stateChanged state =>
    refine calm_connection (fun c c' hc => ?_) h
    unfold NWTCPConnection.move at hc
    split at hc
    · rename_i hguard
      cases hc
      refine ⟨rfl, ?_⟩
      dsimp only
      omega
    · cases hc
  | readCompleted data => exact calm_connection (hcomplete data) h
  | readFailed => exact calm_connection (hcomplete none) h
  | writeCompleted error =>
    refine calm_connection (fun c c' hc => ?_) h
    unfold NWTCPConnection.acknowledge at hc
    split at hc
    · cases hc; exact ⟨rfl, Nat.le_refl _⟩
    · cases hc
  | block =>
    rw [happen] at h
    split at h
    · cases h
    · cases h; exact .of_eq rfl rfl

theorem Patient.checkStatus (h : Patient forced s) : Patient forced s.checkStatus := by
  unfold NWTCPSocket.checkStatus
  split
  · rename_i hcl
    intro c hc hcalled
    have hpending : s.writePending = false := by simpa using (Bool.and_eq_true_iff.1 hcl).2
    exact .inl hpending
  · exact h

theorem Patient.disconnect (h : Patient forced s) : Patient forced s.disconnect.1 := by
  unfold NWTCPSocket.disconnect
  dsimp only
  split
  · exact h.calm (.of_eq rfl rfl)
  · have hcalm : Calm s { s with cancelled := true, closeAfterWriting := true } := .of_eq rfl rfl
    exact (h.calm hcalm).checkStatus

/-- What holds of a run with the step's exchanges added to it. -/
theorem Patient.step {i : Input} (h : Patient forced s)
    (hcancelled : ∀ c, s.connection = some c → c.cancelCalled = true → s.cancelled = true)
    (hs : s.step i = some (s', es)) (hforced : forced → forced') (hes : (∃ b, .forceDisconnect b ∈ es) → forced') :
    Patient forced' s' := by
  obtain ⟨t, hhappen, hhandle⟩ := Option.bind_eq_some_iff.1 hs
  have hcalm := calm_happen hhappen
  have ht : Patient forced' t := (h.calm hcalm).mono hforced
  cases i with
  | read r =>
    obtain ⟨u, hu, hpair⟩ := Option.map_eq_some_iff.1 hhandle
    cases hpair
    exact ht.calm (calm_read hu)
  | write data =>
    cases hhappen
    obtain ⟨u, hu, hpair⟩ := Option.map_eq_some_iff.1 hhandle
    cases hpair
    unfold NWTCPSocket.write at hu
    split at hu
    · cases hu; exact ht
    · rename_i hopen
      split at hu
      · cases hu; exact ht.calm (.of_eq rfl rfl)
      · obtain ⟨c, hc, rfl⟩ := Option.map_eq_some_iff.1 hu
        intro c' hc' hcalled
        cases hc'
        exact absurd (hcancelled c hc hcalled) hopen
  | disconnect => cases hhandle; exact ht.disconnect
  | forceDisconnect =>
    cases hhandle
    exact fun c hc hcalled => .inr (.inr (hes ⟨_, List.mem_singleton_self _⟩))
  | stateChanged state =>
    obtain ⟨u, hu, hpair⟩ := Option.map_eq_some_iff.1 hhandle
    cases hpair
    obtain ⟨c, hc, rfl⟩ := Option.map_eq_some_iff.1 hu
    split
    · exact ht.calm (.of_eq rfl rfl)
    · rename_i hstate
      intro c' hc' hcalled
      obtain ⟨d, hd, rfl⟩ := Option.map_eq_some_iff.1 hc'
      cases hc.symm.trans hd
      exact .inr (.inl (by rw [hstate]; decide))
    · exact ht.calm (.of_eq rfl rfl)
    · exact ht
  | readCompleted data =>
    cases hhandle
    unfold readCallback
    split
    · exact ht
    · exact ht.calm (.of_eq rfl rfl)
  | readFailed => cases hhandle; exact ht.calm (.of_eq rfl rfl)
  | writeCompleted error => cases hhandle; exact ht.calm (.of_eq rfl rfl)
  | block =>
    rw [handle] at hhandle
    split at hhandle
    · cases hhandle; exact ht
    · rename_i block queue hqueue
      have hpop : Calm t { t with queue } := .of_eq rfl rfl
      have hq := ht.calm hpop
      cases block with
      | didConnect => cases hhandle; exact hq
      | didDisconnect => cases hhandle; exact hq.calm (.of_eq rfl rfl)
      | disconnect => cases hhandle; exact hq.disconnect
      | readCallback data => exact hq.calm (calm_deliver hhandle)
      | written error =>
        have hwritten : Patient forced' { t with queue, writePending := false } := fun c hc hcalled => .inl rfl
        cases error with
        | true => cases hhandle; exact hwritten.disconnect
        | false => cases hhandle; exact hwritten.calm (.of_eq rfl rfl)
      | didWrite => cases hhandle; exact hq
      | checkStatus => cases hhandle; exact hq.checkStatus

end Patience

/-! ## Whole runs -/

section Runs

variable {host : Text} {port : Int} {tunnelProvider : Bool} {is : List Input} {s : NWTCPSocket} {es : List Exchange}

/-- The delegate keeps to the contract, as far as it goes so far. -/
def Disciplined (host : Text) (port : Int) (w : NWTCPSocket × List Exchange) (i : Input) : Prop :=
  ∀ raw ∈ Lts.run (RawSocket.exchange RawSocket.answer) (.opened host port) w.2, Allows raw i

instance Disciplined.decidable (host : Text) (port : Int) (w : NWTCPSocket × List Exchange) (i : Input) :
    Decidable (Disciplined host port w i) :=
  match h : Lts.run (RawSocket.exchange RawSocket.answer) (.opened host port) w.2 with
  | none => .isTrue fun raw hraw => by rw [h] at hraw; cases hraw
  | some raw => decidable_of_iff (Allows raw i) (by simp [Disciplined, h])

theorem agrees_start (host : Text) (port : Int) (tunnelProvider : Bool) :
    ∃ raw, Lts.run (RawSocket.exchange RawSocket.answer) (.opened host port) (start tunnelProvider).2 = some raw ∧
      Agrees (start tunnelProvider).1 raw := by
  cases tunnelProvider with
  | false => exact ⟨_, rfl, .unprovided ⟨rfl, ⟨rfl, rfl⟩, rfl, rfl, rfl, nofun, rfl, rfl, rfl, rfl, rfl⟩⟩
  | true =>
    have hstanding : Standing (connectTo (some .create)) .create (.opened host port) :=
      { delegate := rfl, gone := rfl, ended := rfl, left := nofun, closing := nofun, cancelCalled := nofun
        closeAfterWriting := nofun, state := nofun, leaves := nofun, departs := nofun, leaving := nofun }
    have hwriting : Writing (connectTo (some .create)) .create (.opened host port) :=
      { pending := rfl, acknowledged := Nat.le_refl 0, single := Nat.zero_le 1, sent := List.prefix_refl []
        sent_open := fun _ => rfl }
    exact ⟨_, rfl, .provided .create
      ⟨⟨rfl, hstanding, ⟨Nat.le_refl 1, fun _ => .inl rfl⟩, hwriting, .idle rfl rfl rfl rfl rfl rfl⟩, nofun,
        fun _ => Nat.le_refl 0⟩⟩

theorem Agrees.cancelled {raw : RawSocket} (h : Agrees s raw) :
    ∀ c, s.connection = some c → c.cancelCalled = true → s.cancelled = true := by
  intro c hc hcalled
  cases h with
  | unprovided h => rw [h.connection] at hc; cases hc
  | provided d h =>
    rw [h.connection] at hc
    cases hc
    exact h.standing.cancelCalled hcalled

/-- What has passed is what the contract allows, and the socket stands as it says. -/
def Kept (host : Text) (port : Int) (w : NWTCPSocket × List Exchange) : Prop :=
  (∃ raw, Lts.run (RawSocket.exchange RawSocket.answer) (.opened host port) w.2 = some raw ∧ Agrees w.1 raw) ∧
    Patient (∃ b, .forceDisconnect b ∈ w.2) w.1

theorem kept_step {w w' : NWTCPSocket × List Exchange} {i : Input} (h : Kept host port w)
    (hd : Disciplined host port w i) (hw : watch w i = some w') : Kept host port w' := by
  obtain ⟨⟨raw, hrun, hagrees⟩, hpatient⟩ := h
  obtain ⟨⟨s', es'⟩, hs, rfl⟩ := Option.map_eq_some_iff.1 hw
  obtain ⟨s₁, hhappen, hhandle⟩ := Option.bind_eq_some_iff.1 hs
  obtain ⟨_, _, raw', hkeeps, hrun', hagrees'⟩ := hagrees.step (hd raw hrun) hhappen
  cases hhandle.symm.trans hkeeps
  refine ⟨⟨raw', Lts.run_append_some.2 ⟨raw, hrun, hrun'⟩, hagrees'⟩, ?_⟩
  apply hpatient.step hagrees.cancelled hs
  · rintro ⟨b, hb⟩
    exact ⟨b, List.mem_append_left _ hb⟩
  · rintro ⟨b, hb⟩
    exact ⟨b, List.mem_append_right _ hb⟩

theorem kept_run (hG : Lts.Meets watch (Disciplined host port) (start tunnelProvider) is)
    (h : Lts.run watch (start tunnelProvider) is = some (s, es)) : Kept host port (s, es) := by
  refine Lts.run_invariant_of_meets (fun _ _ _ => kept_step) ⟨agrees_start host port tunnelProvider, ?_⟩ hG h
  intro c hc hcalled
  cases tunnelProvider with
  | false => cases hc
  | true => cases hc; cases hcalled

/-! ## What is still to come -/

/-- What the delegate waits for is under way at the connection or on the queue, unless the connection is lost, the
socket is cancelled, the stream has ended, or the pattern has not shown in the length that is scanned. -/
structure Waits (s : NWTCPSocket) (raw : RawSocket) : Prop where
  connect : raw.connecting = true → ∀ c ∈ s.connection, c.state.rank = 0 ∨ .didConnect ∈ s.queue ∨ 2 ≤ c.state.rank
  read : raw.reads ≠ [] → s.cancelled = false → raw.ended = false →
    s.received.length ≤ raw.received.flatten.length + MAXNWTCPScanLength →
      ∃ c ∈ s.connection, c.reads ≠ [] ∨ ∃ data, .readCallback data ∈ s.queue
  write : 0 < raw.writes → s.cancelled = false →
    ∃ c ∈ s.connection, 0 < c.writes ∨ ∃ block ∈ s.queue, block.acknowledges = true

theorem mem_of_answer {data : Option Data} {queue : List Block} (h : queue.filterMap Block.answer = [data]) :
    .readCallback data ∈ queue := by
  obtain ⟨block, hmem, hanswer⟩ := List.mem_filterMap.1 (h ▸ List.mem_singleton_self data)
  cases block with
  | readCallback data' =>
    cases hanswer
    exact hmem
  | _ => cases hanswer

theorem Agrees.waits {raw : RawSocket} (h : Agrees s raw) : Waits s raw := by
  cases h with
  | unprovided h =>
    refine ⟨fun _ c hc => ?_, fun hreads => absurd h.reads hreads, fun hwrites => ?_⟩
    · rw [h.connection] at hc; cases hc
    · rw [h.writes] at hwrites; cases hwrites
  | provided c h =>
    refine ⟨fun hraw d hd => ?_, fun hreads hopen hended hshort => ⟨c, h.connection, ?_⟩,
      fun hwrites hopen => ⟨c, h.connection, ?_⟩⟩
    · cases h.connection.symm.trans hd
      exact h.connecting.waits hraw
    · cases h.reading with
      | idle h1 => exact absurd h1 hreads
      | asked r minimum maximum held h1 h2 => exact .inl (by rw [h2]; exact List.cons_ne_nil _ _)
      | answered r minimum maximum held data h1 h2 h3 => exact .inr ⟨data, mem_of_answer h3⟩
      | lost h1 h2 h3 h4 h5 =>
        rw [received, h.connection, Option.map_some, Option.getD_some] at hshort
        rcases h5 with hcancelled | hlost | hlong
        · rw [hopen] at hcancelled; cases hcancelled
        · rw [h.standing.ended, hlost] at hended; cases hended
        · exact absurd hshort (Nat.not_le.2 hlong)
    · have hle := h.acknowledges hopen
      by_cases hw : 0 < c.writes
      · exact .inl hw
      · exact .inr (List.countP_pos_iff.1 (by omega))

/-! ## A sample run -/

/-- A socket connects, writes, reads up to a line end in two pieces, one byte more behind what it held over, and
the end of the stream, and is told to disconnect behind a write. -/
def sampleInputs : List Input :=
  [.stateChanged .connected, .block, .write [1, 2], .writeCompleted false, .block, .block, .read (.pattern [13, 10]),
    .readCompleted (some [71, 13]), .block, .readCompleted (some [10, 72]), .block, .read (.length 1),
    .readCompleted (some [73]), .block, .read .data, .readCompleted none, .block, .write [3], .disconnect,
    .writeCompleted false, .block, .block, .stateChanged .cancelled, .block]

theorem meets_sampleInputs : Lts.Meets watch (Disciplined [] 443) (start true) sampleInputs := by decide

theorem run_sampleInputs : ∃ s es, Lts.run watch (start true) sampleInputs = some (s, es) ∧ s.sent = [1, 2, 3] ∧
    s.received = [71, 13, 10, 72, 73] := ⟨_, _, rfl, rfl, rfl⟩

/-- Whatever the connection does and whenever the blocks run, what passes between a socket and a delegate
that reads and writes one at a time is what the contract allows, what is still to come is under way, and no
call is a trap. A delegate that reads any data only sees the contract of a socket that holds nothing over. -/
theorem keeps_contract (hG : Lts.Meets watch (Disciplined host port) (start tunnelProvider) is)
    (h : Lts.run watch (start tunnelProvider) is = some (s, es)) :
    ∃ raw, Lts.run (RawSocket.exchange RawSocket.answer) (.opened host port) es = some raw ∧ Waits s raw ∧
      ((∀ r, .read r ∈ es → r = .data) →
        Lts.run (RawSocket.exchange fun raw d _ => raw.deliver d) (.opened host port) es = some raw) ∧
      ∀ i s', Allows raw i → s.happen i = some s' → ∃ t es', s'.handle i = some (t, es') ∧
        (Lts.run (RawSocket.exchange RawSocket.answer) raw es').isSome = true := by
  obtain ⟨⟨raw, hrun, hagrees⟩, -⟩ := kept_run hG h
  refine ⟨raw, hrun, hagrees.waits, fun hdata => ?_, fun i s' hallow hhappen => ?_⟩
  · exact RawSocket.run_exchange_deliver ⟨rfl, fun r hr => (nomatch hr)⟩ hdata hrun
  · obtain ⟨t, es', raw', hhandle, hrun', -⟩ := hagrees.step hallow hhappen
    exact ⟨t, es', hhandle, by rw [hrun']; rfl⟩

theorem keeps_contract_sample : ∃ s es raw, Lts.run watch (start true) sampleInputs = some (s, es) ∧
    Lts.run (RawSocket.exchange RawSocket.answer) (.opened [] 443) es = some raw ∧ Waits s raw ∧
      ∀ i s', Allows raw i → s.happen i = some s' → ∃ t es', s'.handle i = some (t, es') ∧
        (Lts.run (RawSocket.exchange RawSocket.answer) raw es').isSome = true := by
  obtain ⟨s, es, hrun, -⟩ := run_sampleInputs
  obtain ⟨raw, hraw, hwaits, -, hnext⟩ := keeps_contract meets_sampleInputs hrun
  exact ⟨s, es, raw, hrun, hraw, hwaits, hnext⟩

/-- The data delivered are the bytes the connection has received, in order and each once, up to those held
over once no read is under way; the bytes written to the connection are those the delegate has written, all
of them until the socket is cancelled. -/
theorem carries_bytes (hG : Lts.Meets watch (Disciplined host port) (start tunnelProvider) is)
    (h : Lts.run watch (start tunnelProvider) is = some (s, es)) :
    ∃ raw, Lts.run (RawSocket.exchange RawSocket.answer) (.opened host port) es = some raw ∧
      raw.received.flatten <+: s.received ∧
      (raw.reads = [] → raw.received.flatten ++ s.readDataPrefix.getD [] = s.received) ∧
      s.sent <+: raw.sent ∧ (s.cancelled = false → s.sent = raw.sent) := by
  obtain ⟨⟨raw, hrun, hagrees⟩, -⟩ := kept_run hG h
  refine ⟨raw, hrun, ?_⟩
  cases hagrees with
  | unprovided h =>
    rw [received, sent, h.connection, h.received, h.sent, h.readDataPrefix]
    exact ⟨List.prefix_refl _, fun _ => rfl, List.prefix_refl _, fun _ => rfl⟩
  | provided c h =>
    rw [received, sent, h.connection]
    refine ⟨h.reading.delivered, ?_, h.writing.sent, h.writing.sent_open⟩
    intro hidle
    cases h.reading with
    | idle h1 h2 h3 h4 h5 h6 => exact h6
    | asked r minimum maximum held h1 => rw [hidle] at h1; cases h1
    | answered r minimum maximum held data h1 => rw [hidle] at h1; cases h1
    | lost h1 => exact absurd hidle h1

theorem carries_bytes_sample : ∃ s es raw, Lts.run watch (start true) sampleInputs = some (s, es) ∧
    Lts.run (RawSocket.exchange RawSocket.answer) (.opened [] 443) es = some raw ∧
      raw.received.flatten <+: [71, 13, 10, 72, 73] ∧
      (raw.reads = [] → raw.received.flatten ++ s.readDataPrefix.getD [] = [71, 13, 10, 72, 73]) ∧
      [1, 2, 3] <+: raw.sent ∧ (s.cancelled = false → [1, 2, 3] = raw.sent) := by
  obtain ⟨s, es, hrun, hsent, hreceived⟩ := run_sampleInputs
  obtain ⟨raw, hraw, hcarries⟩ := carries_bytes meets_sampleInputs hrun
  rw [hreceived, hsent] at hcarries
  exact ⟨s, es, raw, hrun, hraw, hcarries⟩

/-- A socket that is told to disconnect tells its connection to cancel by the time nothing is under way, but
not before the write under way has ended, unless it is forced or the connection is lost; and when the
connection is cancelled the delegate is told. -/
theorem closes_after_writing (hG : Lts.Meets watch (Disciplined host port) (start tunnelProvider) is)
    (h : Lts.run watch (start tunnelProvider) is = some (s, es)) :
    ∃ raw, Lts.run (RawSocket.exchange RawSocket.answer) (.opened host port) es = some raw ∧ ∀ c, s.connection = some c →
      (raw.closing = true → s.queue = [] → c.writes = 0 → c.cancelCalled = true) ∧
      (c.cancelCalled = true → c.writes = 0 ∨ 2 ≤ c.state.rank ∨ ∃ b, .forceDisconnect b ∈ es) ∧
      (c.state = .cancelled → s.queue = [] → raw.delegate = false) := by
  obtain ⟨⟨raw, hrun, hagrees⟩, hpatient⟩ := kept_run hG h
  refine ⟨raw, hrun, fun c hc => ?_⟩
  cases hagrees with
  | unprovided h => rw [h.connection] at hc; cases hc
  | provided d hprovided =>
    rw [hprovided.connection] at hc
    cases hc
    have hpending := hprovided.writing.pending
    refine ⟨fun hclosing hqueue hwrites => ?_, fun hcalled => ?_, fun hstate hqueue => ?_⟩
    · rw [hqueue, hwrites] at hpending
      rcases hprovided.standing.leaves hclosing with hcl | hcalled
      · rcases hprovided.closes hcl with hp | hmem | hcalled
        · rw [hp] at hpending; cases hpending
        · rw [hqueue] at hmem; cases hmem
        · exact hcalled
      · exact hcalled
    · refine (hpatient _ hprovided.connection hcalled).imp_left fun hp => ?_
      rw [hp, Bool.toNat_false] at hpending
      omega
    · rcases hprovided.standing.departs hstate with hd | hmem
      · exact hprovided.standing.delegate.trans hd
      · rw [hqueue] at hmem; cases hmem

theorem closes_after_writing_sample : ∃ s es raw, Lts.run watch (start true) sampleInputs = some (s, es) ∧
    Lts.run (RawSocket.exchange RawSocket.answer) (.opened [] 443) es = some raw ∧ ∀ c, s.connection = some c →
      (raw.closing = true → s.queue = [] → c.writes = 0 → c.cancelCalled = true) ∧
      (c.cancelCalled = true → c.writes = 0 ∨ 2 ≤ c.state.rank ∨ ∃ b, .forceDisconnect b ∈ es) ∧
      (c.state = .cancelled → s.queue = [] → raw.delegate = false) := by
  obtain ⟨s, es, hrun, -⟩ := run_sampleInputs
  obtain ⟨raw, hraw, hends⟩ := closes_after_writing meets_sampleInputs hrun
  exact ⟨s, es, raw, hrun, hraw, hends⟩

end Runs

end NWTCPSocket

end VpnSs.NEKit
