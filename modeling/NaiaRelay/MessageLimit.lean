import NaiaRelay.TcpBind

set_option autoImplicit false

/-!
The size of a message on the relay link, over the bytes its ends read and write. A client's adapter
is given the size that is configured. The framer of a host's listener is not, and the reader in
front of it has a limit of its own.
-/

namespace NaiaRelay.Runtime

open LineStream
open NaiaRelay.Rlp NaiaRelay.Transports

section
variable (P : Platform) (F : Json.FloatText) (unicodeDecodeError : Bytes → Exc)
  (overrun : Bytes → String)

/-- Both ends keep to the size that is configured: what is shorter and sent by a client is read
by a host's listener, and what the listener writes is not longer, at any time of the host's life,
whatever a connection sends and whatever the host draws and learns meanwhile. -/
structure EnforcesLimit (config : RelayConfig) : Prop where
  reads : ∀ (c : ClientRelayRuntime) (h : HostRelayRuntime), c.base.config = config →
    h.base.config = config → ∀ message x, Rlp.parse P message = some x →
    Json.WellFormed F (.obj message) → ∀ text, Json.dumps (.obj message) = .ok text →
    (Json.bytes text : ℤ) < config.maxMessageSizeBytes → ∀ frame,
    LineJsonFramer.encode (pythonJson F unicodeDecodeError) c.tcpFramer message = .ok frame →
      ∃ received rest, receiveRlp P (pythonJson F unicodeDecodeError) overrun h.rlpFramer frame
        = .ok (received, rest)
  writes : ∀ relayId sessionId es h, Run.run (HostRelayRuntime.step P)
      (HostRelayRuntime.create relayId sessionId config).start es = some h →
    ∀ side handled stream line, line ++ [newline] ∈ lines newline
      (handleRlpClient P (pythonJson F unicodeDecodeError) overrun h.rlpFramer
        (LinkHost.respond P side) ⟨h, handled⟩ stream).1 →
      (line.length : ℤ) ≤ config.maxMessageSizeBytes

end

/-! ### Messages of every size -/

/-- A heartbeat with an id of this many characters. -/
def longHeartbeat (k : ℕ) : Obj :=
  [("message_id", .str (String.ofList (List.replicate k 'x'))), ("message_type", .str "heartbeat"),
    ("payload", .obj [("timestamp", .str "")]), ("protocol", .str "rlp"), ("version", .str "1.0")]

/-- What a host answers it with. -/
def longHeartbeatReply (k : ℕ) : Obj :=
  [("protocol", .str "rlp"), ("version", .str "1.0"), ("message_type", .str "heartbeat_response"),
    ("message_id", .str "r"), ("relay_session_id", .str "session"), ("source_relay_id", .str "relay"),
    ("target_relay_id", .null), ("request_id", .str (String.ofList (List.replicate k 'x'))),
    ("execution_id", .null), ("payload", .obj (Tep.statusDump "ok" none none []))]

/-- A host that draws the same ids for every message and forwards none. -/
def heartbeatSide : HostSide where
  ids _ := ⟨"r", "g"⟩
  operationIds _ := ⟨"m", "e"⟩
  forwarded h := (.error (.runtimeError ""), h)

variable {P : Platform} {F : Json.FloatText} {unicodeDecodeError : Bytes → Exc}
  {overrun : Bytes → String} {config : RelayConfig}

lemma bytes_dumpsStr_replicate (k : ℕ) :
    Json.bytes (Json.dumpsStr (String.ofList (List.replicate k 'x'))) = k + 2 := by
  have hbody : (List.replicate k 'x').flatMap (fun c => (Json.dumpsChar c).toList)
      = List.replicate k 'x' := by
    induction k with
    | zero => rfl
    | succ k ih => rw [List.replicate_succ, List.flatMap_cons, ih]; rfl
  have hascii : ∀ c ∈ (String.ofList (List.replicate k 'x')).toList, Text.IsAscii c := by
    intro c hc
    rw [String.toList_ofList] at hc
    rw [List.eq_of_mem_replicate hc]
    decide
  have hquote : Json.bytes "\"" = 1 := rfl
  rw [Json.dumpsStr, String.toList_ofList, hbody, Json.bytes_append, Json.bytes_append, hquote,
    Json.bytes, Text.encodeUtf8_of_ascii hascii, Text.encodeAscii, List.length_map,
    String.toList_ofList, List.length_replicate]
  omega

lemma messageSize_longHeartbeat (k : ℕ) : messageSize (longHeartbeat k) = k + 104 := by
  have hbase : Json.textSize (.obj (longHeartbeat 0)) = 104 := by decide
  have hgrows : Json.textSize (.obj (longHeartbeat k))
      = k + Json.textSize (.obj (longHeartbeat 0)) := by
    simp only [longHeartbeat, Json.textSize, Json.fieldSizes, Json.enclosed,
      bytes_dumpsStr_replicate, List.sum_cons, List.length_cons]
    omega
  rw [messageSize, hgrows, hbase]

lemma messageSize_longHeartbeatReply (k : ℕ) : messageSize (longHeartbeatReply k) = k + 267 := by
  have hbase : Json.textSize (.obj (longHeartbeatReply 0)) = 267 := by decide
  have hgrows : Json.textSize (.obj (longHeartbeatReply k))
      = k + Json.textSize (.obj (longHeartbeatReply 0)) := by
    simp only [longHeartbeatReply, Json.textSize, Json.fieldSizes, Json.enclosed,
      bytes_dumpsStr_replicate, List.sum_cons, List.length_cons]
    omega
  rw [messageSize, hgrows, hbase]

lemma wellFormed_longHeartbeat (k : ℕ) : Json.WellFormed F (.obj (longHeartbeat k)) := by
  have hpayload : Json.WellFormed F (.obj [("timestamp", .str "")]) :=
    wellFormed_obj (by simp) (by simp [wellFormed_str])
  exact wellFormed_obj (by simp [longHeartbeat]) (by simp [longHeartbeat, wellFormed_str, hpayload])

lemma wellFormed_longHeartbeatReply (k : ℕ) : Json.WellFormed F (.obj (longHeartbeatReply k)) := by
  have hnull : Json.WellFormed F .null := trivial
  have hempty : Json.WellFormed F (.obj []) := wellFormed_obj (by simp) (by simp)
  have hpayload : Json.WellFormed F (.obj (Tep.statusDump "ok" none none [])) :=
    wellFormed_obj (by simp [Tep.statusDump])
      (by simp [Tep.statusDump, Json.ofOption, wellFormed_str, hnull, hempty])
  exact wellFormed_obj (by simp [longHeartbeatReply])
    (by simp [longHeartbeatReply, wellFormed_str, hnull, hpayload])

lemma sortMessage_longHeartbeat (k : ℕ) : sortMessage (longHeartbeat k) = longHeartbeat k := by
  simp [longHeartbeat, sortKeys_obj]

lemma respond_longHeartbeat (P : Platform) (config : RelayConfig) (k : ℕ) :
    ((⟨(HostRelayRuntime.create "relay" "session" config).start, 0⟩ : LinkHost).respond P
      heartbeatSide (longHeartbeat k)).1 = .ok (longHeartbeatReply k) := rfl

/-! ### The listener -/

lemma receiveRlp_of_overlong (P : Platform) (overrun : Bytes → String) (N : ℤ) {K : ℤ}
    {message : Obj} {frame : Bytes} (hm : Json.WellFormed F (.obj message))
    (hlong : streamLimit < messageSize message)
    (h : LineJsonFramer.encode (pythonJson F unicodeDecodeError) K message = .ok frame) :
    ∃ e, receiveRlp P (pythonJson F unicodeDecodeError) overrun N frame = .error e := by
  have hroom : ¬ HasRoom N message := fun hroom => absurd hroom.1 (by omega)
  obtain ⟨e, he⟩ := (receiveLine_cases P overrun "" N hm h []).2 hroom
  rw [List.append_nil] at he
  rw [receiveRlp_eq (encode_ne_nil hm h) "", he]
  exact ⟨_, rfl⟩

lemma handleRlpClient_longHeartbeat (P : Platform) (F : Json.FloatText)
    (unicodeDecodeError : Bytes → Exc) (overrun : Bytes → String) (config : RelayConfig) {k : ℕ}
    (hk : k + 104 ≤ streamLimit) {K : ℤ} (hK : (k + 104 : ℕ) ≤ K) :
    let h := (HostRelayRuntime.create "relay" "session" config).start
    ∃ frame line, LineJsonFramer.encode (pythonJson F unicodeDecodeError) K (longHeartbeat k)
        = .ok frame ∧ newline ∉ line ∧ line.length = k + 267 ∧
      (handleRlpClient P (pythonJson F unicodeDecodeError) overrun h.rlpFramer
        (LinkHost.respond P heartbeatSide) ⟨h, 0⟩ frame).1 = line ++ [newline] := by
  intro h
  have hlimit : streamLimit = 65536 := rfl
  have hsize := messageSize_longHeartbeat k
  have hreplySize := messageSize_longHeartbeatReply k
  have hw := wellFormed_longHeartbeat (F := F) k
  have hwReply := wellFormed_longHeartbeatReply (F := F) k
  obtain ⟨frame, hframe⟩ : ∃ frame, LineJsonFramer.encode (pythonJson F unicodeDecodeError)
      K (longHeartbeat k) = .ok frame := exists_encode ⟨_, rfl⟩ (by rw [hsize]; exact hK)
  obtain ⟨reply, hreply⟩ : ∃ frame, LineJsonFramer.encode (pythonJson F unicodeDecodeError)
      h.rlpFramer (longHeartbeatReply k) = .ok frame := by
    refine exists_encode ⟨_, rfl⟩ ?_
    rw [hreplySize]
    show ((k + 267 : ℕ) : ℤ) ≤ 1048576
    omega
  -- the listener has room for the request, and its framer for the reply
  have hroom : HasRoom h.rlpFramer (longHeartbeat k) := by
    refine ⟨by omega, ?_⟩
    rw [hsize]
    show ((k + 104 : ℕ) : ℤ) < 1048576
    omega
  have hwritten := ((handleRlpClient_frame P overrun h.rlpFramer (LinkHost.respond P heartbeatSide)
    ⟨h, 0⟩ hw hframe).2 hroom).1
  rw [sortMessage_longHeartbeat, respond_longHeartbeat] at hwritten
  obtain ⟨n, hn⟩ := hasSize_of_encode hreply
  obtain ⟨line, hbreak, rfl, hlength⟩ := LineJsonFramer.isLine_encode hwReply hn hreply
  refine ⟨frame, line, hframe, hbreak, by rw [hlength, hn.eq_messageSize, hreplySize], ?_⟩
  rw [hwritten]
  dsimp only [Except.bind]
  rw [hreply]
  rfl

/-! ### Both ends -/

lemma not_enforcesLimit_of_reply {k : ℕ} (hk : k + 104 ≤ streamLimit)
    (hlt : config.maxMessageSizeBytes < (k + 267 : ℕ)) :
    ¬ EnforcesLimit P F unicodeDecodeError overrun config := by
  intro h
  obtain ⟨stream, line, -, hbreak, hlength, hwritten⟩ :=
    handleRlpClient_longHeartbeat P F unicodeDecodeError overrun config hk le_rfl
  have hline : lines newline (line ++ [newline]) = [line ++ [newline]] := by
    rw [lines_line newline hbreak [], lines_nil]
  have hle := h.writes "relay" "session" [] _ rfl heartbeatSide 0 stream line
    (by rw [hwritten, hline]; exact List.mem_singleton_self _)
  omega

lemma not_enforcesLimit_of_request (hgt : (streamLimit + 1 : ℕ) < config.maxMessageSizeBytes) :
    ¬ EnforcesLimit P F unicodeDecodeError overrun config := by
  intro h
  have hlimit : streamLimit = 65536 := rfl
  -- a heartbeat of one byte more than the reader in front of the framer takes
  obtain ⟨k, hk⟩ : ∃ k, k + 104 = streamLimit + 1 := ⟨65433, rfl⟩
  have hsize := messageSize_longHeartbeat k
  have hw := wellFormed_longHeartbeat (F := F) k
  obtain ⟨text, htext⟩ : ∃ text, Json.dumps (.obj (longHeartbeat k)) = .ok text := ⟨_, rfl⟩
  have hbytes : Json.bytes text = messageSize (longHeartbeat k) := Json.bytes_of_dumps _ _ htext
  let c := ClientRelayRuntime.create "client" "session" config
  obtain ⟨frame, hframe⟩ : ∃ frame, LineJsonFramer.encode (pythonJson F unicodeDecodeError)
      c.tcpFramer (longHeartbeat k) = .ok frame := by
    refine exists_encode ⟨text, htext⟩ ?_
    show (messageSize (longHeartbeat k) : ℤ) ≤ config.maxMessageSizeBytes
    omega
  obtain ⟨received, rest, hread⟩ := h.reads c (HostRelayRuntime.create "relay" "session" config) rfl
    rfl (longHeartbeat k) _ rfl hw text htext (by omega) frame hframe
  obtain ⟨e, he⟩ := receiveRlp_of_overlong P overrun
    (HostRelayRuntime.create "relay" "session" config).rlpFramer hw (by omega) hframe
  rw [he] at hread
  cases hread

/-- **No size is kept to by both ends.** Where one is so short that a reply is longer, the host
writes the reply; and any other is more than the listener reads. -/
theorem not_enforcesLimit (P : Platform) (F : Json.FloatText) (unicodeDecodeError : Bytes → Exc)
    (overrun : Bytes → String) (config : RelayConfig) :
    ¬ EnforcesLimit P F unicodeDecodeError overrun config := by
  have hlimit : streamLimit = 65536 := rfl
  by_cases hN : config.maxMessageSizeBytes ≤ (streamLimit + 1 : ℕ)
  · refine not_enforcesLimit_of_reply (k := 65432) (by omega) ?_
    omega
  · exact not_enforcesLimit_of_request (by omega)

/-- With 1024 configured at both ends, a heartbeat of less than 1024 bytes is answered with more. -/
theorem longReply_exceeds :
    let config : RelayConfig := { maxMessageSizeBytes := 1024 }
    let c := ClientRelayRuntime.create "client" "session" config
    let h := (HostRelayRuntime.create "relay" "session" config).start
    messageSize (longHeartbeat 900) = 1004 ∧
      (∃ frame line, LineJsonFramer.encode verbatimJson c.tcpFramer (longHeartbeat 900) = .ok frame ∧
        newline ∉ line ∧ line.length = 1167 ∧
        (handleRlpClient .strict verbatimJson (fun _ => "overrun") h.rlpFramer
          (LinkHost.respond .strict heartbeatSide) ⟨h, 0⟩ frame).1 = line ++ [newline]) ∧
      ¬ EnforcesLimit .strict .verbatim (fun _ => .valueError "'utf-8' codec can't decode")
        (fun _ => "overrun") config :=
  ⟨messageSize_longHeartbeat 900, handleRlpClient_longHeartbeat _ _ _ _ _ (by decide) (by decide),
    not_enforcesLimit_of_reply (k := 900) (by decide) (by decide)⟩

end NaiaRelay.Runtime
