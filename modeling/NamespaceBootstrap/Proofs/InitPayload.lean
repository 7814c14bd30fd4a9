import NamespaceBootstrap.Proofs.JsonRead
import NamespaceBootstrap.Proofs.BlobFrame
import NamespaceBootstrap.Cli.Plan
import NamespaceBootstrap.Proofs.FlagWords

/-! The init payload the host sends is the configuration the child reads. The configuration's
JSON text is read back field by field as the configuration itself, so the child gets it exactly
when it is valid and the validation's failure otherwise; the written text is therefore the one
canonical form of everything the reader accepts. The host frames that text, and the child's
blob reader gives the text back whatever follows it. -/

namespace NamespaceBootstrap.Json

namespace Reader

/-! The fields of a written configuration, in the order the writer puts them: `args` first,
then `env`, then `hostname` when there is one. -/

theorem reads_fields_args (xs : List String) (n : Nat) {m o : List UInt8} {v : Fields}
    (h : ReadsAs (fields { args := some xs } false n) m v o) :
    ReadsAs (fields {} true (n + 1))
      (Text.utf8 (writeString "args") ++ 0x3A :: (Text.utf8 (writeStrings xs) ++ m)) v o :=
  (reads_nextKey_first "args" _).bind ((reads_colon _).bind ((reads_strings xs m).bind h))

theorem reads_fields_env (xs ys : List String) (n : Nat) {m o : List UInt8} {v : Fields}
    (h : ReadsAs (fields { args := some xs, env := some ys } false n) m v o) :
    ReadsAs (fields { args := some xs } false (n + 1))
      (0x2C :: (Text.utf8 (writeString "env") ++ 0x3A :: (Text.utf8 (writeStrings ys) ++ m))) v o :=
  (reads_nextKey_next "env" _).bind ((reads_colon _).bind ((reads_strings ys m).bind h))

theorem reads_fields_hostname (xs ys : List String) (host : String) (n : Nat) {m o : List UInt8}
    {v : Fields}
    (h : ReadsAs (fields { args := some xs, env := some ys, hostname := some (some host) } false n)
      m v o) :
    ReadsAs (fields { args := some xs, env := some ys } false (n + 1))
      (0x2C :: (Text.utf8 (writeString "hostname") ++ 0x3A :: (Text.utf8 (writeString host) ++ m)))
      v o :=
  (reads_nextKey_next "hostname" _).bind ((reads_colon _).bind
    ((reads_optionalString host m).bind h))

theorem reads_fields_end (acc : Fields) (first : Bool) (n : Nat) (r : List UInt8) :
    ReadsAs (fields acc first (n + 1)) (0x7D :: r) acc (0x7D :: r) :=
  (reads_nextKey_end first r).bind (ReadsAs.pure _ _)

theorem reads_ofFields (c : InitConfig) (r : List UInt8) :
    ReadsAs (ofFields { args := some c.args, env := some c.env, hostname := c.hostname.map some })
      r c r := by
  intro cur h
  refine ⟨cur, ?_, h⟩
  obtain ⟨args, env, _ | host⟩ := c <;> rfl

end Reader

theorem utf8_toJson (c : InitConfig) :
    Text.utf8 c.toJson = 0x7B :: Text.utf8 (writeString "args") ++ 0x3A ::
      Text.utf8 (writeStrings c.args) ++ 0x2C :: Text.utf8 (writeString "env") ++ 0x3A ::
      Text.utf8 (writeStrings c.env) ++
      (match c.hostname with
        | some h => 0x2C :: Text.utf8 (writeString "hostname") ++ 0x3A :: Text.utf8 (writeString h)
        | none => []) ++ [0x7D] := by
  have hargs : Text.utf8 "\x7b\"args\":" = 0x7B :: (Text.utf8 (writeString "args") ++ [0x3A]) := by
    decide
  have henv : Text.utf8 ",\"env\":" = 0x2C :: (Text.utf8 (writeString "env") ++ [0x3A]) := by
    decide
  have hhost : Text.utf8 ",\"hostname\":" =
      0x2C :: (Text.utf8 (writeString "hostname") ++ [0x3A]) := by
    decide
  have hclose : Text.utf8 "\x7d" = [0x7D] := by decide
  obtain ⟨args, env, _ | host⟩ := c <;>
    simp [InitConfig.toJson, hargs, henv, hhost, hclose]

theorem Reader.reads_initConfig (c : InitConfig) (rest : List UInt8) :
    ReadsAs Reader.initConfig (Text.utf8 c.toJson ++ rest) c rest := by
  rw [utf8_toJson]
  simp only [List.cons_append, List.append_assoc, List.nil_append]
  refine (Reader.reads_nextByte rfl).bind ?_
  rw [if_neg (by decide), if_pos rfl]
  refine (Reader.reads_eat _ _).bind
    (ReadsAs.placed (ReadsAs.thenClose ?_ (Reader.reads_endObject rest)))
  -- the fuel is the length of what follows the brace, enough for three fields and the end
  intro cur hcur
  obtain ⟨n, hn⟩ : ∃ n, cur.rest.length + 1 = n + 4 :=
    ⟨cur.rest.length - 3, by simp [hcur]; omega⟩
  show ∃ c', (Reader.fields {} true (cur.rest.length + 1) >>= Reader.ofFields) cur = _ ∧ _
  rw [hn]
  refine ReadsAs.bind ?_ (Reader.reads_ofFields c _) cur hcur
  refine Reader.reads_fields_args c.args _ (Reader.reads_fields_env c.args c.env _ ?_)
  obtain ⟨args, env, _ | host⟩ := c
  · exact Reader.reads_fields_end _ false (n + 1) rest
  · exact Reader.reads_fields_hostname args env host _ (Reader.reads_fields_end _ false n rest)

end NamespaceBootstrap.Json

namespace NamespaceBootstrap

namespace InitConfig

/-- The payload's reader reads back every configuration its writer wrote. -/
theorem jsonCodec_read_write (c : InitConfig) :
    jsonCodec.read (Text.utf8 (jsonCodec.write c)) = .ok c := by
  have hwhole : Json.ReadsAs (do let v ← Json.Reader.initConfig; Json.Reader.atEnd; pure v)
      (Text.utf8 c.toJson ++ []) c [] :=
    (Json.Reader.reads_initConfig c []).bind (Json.Reader.reads_atEnd.bind (Json.ReadsAs.pure c []))
  obtain ⟨cur, hrun, -⟩ := hwhole (Json.Cursor.start (Text.utf8 c.toJson)) (List.append_nil _).symm
  simp only [jsonCodec, EStateM.run]
  rw [hrun]

section Codec

variable (codec : Codec)

theorem ofJsonWith_write (read_write : ∀ c, codec.read (Text.utf8 (codec.write c)) = .ok c)
    (c : InitConfig) : ofJsonWith codec (Text.utf8 (codec.write c)) = c.validate.map fun () => c := by
  rw [ofJsonWith, read_write]

theorem validate_of_ofJsonWith {b : List UInt8} {c : InitConfig} (h : ofJsonWith codec b = .ok c) :
    c.validate = .ok () := by
  unfold ofJsonWith at h
  rcases hread : codec.read b with e | c'
  · simp [hread] at h
  · rw [hread] at h
    cases hv : c'.validate with
    | error e => simp [hv, Except.map] at h
    | ok u =>
      simp only [hv, Except.map, Except.ok.injEq] at h
      exact h ▸ hv

end Codec

theorem validated_eq_ok {ε : Type} (f : ConfigError → ε) (c c' : InitConfig) :
    ((c.validate.mapError f).map fun () => c) = .ok c' ↔ c' = c ∧ c.validate = .ok () := by
  cases c.validate with
  | error e => simp [Except.mapError, Except.map]
  | ok u => simp [Except.mapError, Except.map, eq_comm]

end InitConfig

/-- The host builds a configuration exactly when a hostname comes with a fresh UTS namespace
and the configuration of the request's command, entries and hostname is valid. -/
theorem Cli.initConfigOf_eq_ok (r : Cli.ExecRequest) (fresh : Flags) (c : InitConfig) :
    Cli.initConfigOf r fresh = .ok c ↔
      (r.hostname = none ∨ fresh.has .uts = true) ∧
        c = { args := r.command, env := r.env, hostname := r.hostname } ∧ c.validate = .ok () := by
  unfold Cli.initConfigOf
  cases hh : r.hostname with
  | none =>
    simp only [Except.bind, InitConfig.validated_eq_ok, true_or, true_and]
    exact and_congr_right fun h => h ▸ Iff.rfl
  | some h =>
    by_cases hu : fresh.has .uts
    · simp only [Flags.contains_ofKind, hu, Except.bind, InitConfig.validated_eq_ok,
        InitConfig.withHostname, or_true, true_and, reduceIte]
      exact and_congr_right fun h => h ▸ Iff.rfl
    · simp [hu, Except.bind]

section Codec

variable (codec : InitConfig.Codec)

/-- The init payload round trip over any JSON codec whose reader gives back what its writer
wrote, as a codec of a derived serialisation promises. Framing a configuration's text succeeds
exactly when the text fits a blob, and the frame is its length and the text; a stream holding
the frame, whatever follows, reads the text back; reading the text gives the configuration when
it is valid and the validation's failure otherwise, so every configuration read from any bytes
is read again from its own text, and so is every configuration the host builds. -/
theorem payload_round_trip_of_codec
    (read_write : ∀ c, codec.read (Text.utf8 (codec.write c)) = .ok c) (c : InitConfig) :
    (∀ frame, Wire.encodePayload (Text.utf8 (codec.write c)) = .ok frame ↔
      (Text.utf8 (codec.write c)).length ≤ Wire.maxBlob ∧
        frame = Wire.be32 (UInt32.ofNat (Text.utf8 (codec.write c)).length) ++
          Text.utf8 (codec.write c)) ∧
    (∀ frame r (s : Wire.Stream) step, Wire.encodePayload (Text.utf8 (codec.write c)) = .ok frame →
      s.closed = false → s.unread = frame ++ r →
      s.readBlob step = (.ok (Text.utf8 (codec.write c)),
        { s with unread := r, consumed := s.consumed + (4 + (Text.utf8 (codec.write c)).length) })) ∧
    InitConfig.ofJsonWith codec (Text.utf8 (codec.write c)) = c.validate.map (fun () => c) ∧
    (∀ b, InitConfig.ofJsonWith codec b = .ok c →
      InitConfig.ofJsonWith codec (Text.utf8 (codec.write c)) = .ok c) ∧
    (∀ r fresh, Cli.initConfigOf r fresh = .ok c →
      InitConfig.ofJsonWith codec (Text.utf8 (codec.write c)) = .ok c) := by
  -- a valid configuration is read back as itself
  have hvalid : c.validate = .ok () →
      InitConfig.ofJsonWith codec (Text.utf8 (codec.write c)) = .ok c := by
    intro hv
    rw [InitConfig.ofJsonWith_write codec read_write, hv]
    rfl
  refine ⟨fun frame => ?_, fun frame r s step hframe hs hu =>
    Wire.Stream.readBlob_encodePayload hframe hs hu, InitConfig.ofJsonWith_write codec read_write c,
    fun b hb => hvalid (InitConfig.validate_of_ofJsonWith codec hb),
    fun r fresh hc => hvalid ((Cli.initConfigOf_eq_ok r fresh c).1 hc).2.2⟩
  rw [Wire.encodePayload_eq]
  split_ifs with hn
  · simp [hn, eq_comm]
  · simp [hn]

end Codec

/-- The init payload round trip. Framing a configuration's JSON text succeeds exactly when the
text fits a blob, and the frame is its length and the text; a stream holding the frame, whatever
follows, reads the text back; reading the text gives the configuration when it is valid and the
validation's failure otherwise, so every configuration read from any JSON is read again from its
own text. The host builds a configuration from a request exactly when a hostname comes with a
fresh UTS namespace and the configuration of the request's fields is valid, so the child reads
every configuration the host builds unchanged. -/
theorem initConfig_payload_round_trip (c : InitConfig) :
    (∀ frame, Wire.encodePayload (Text.utf8 c.toJson) = .ok frame ↔
      (Text.utf8 c.toJson).length ≤ Wire.maxBlob ∧
        frame = Wire.be32 (UInt32.ofNat (Text.utf8 c.toJson).length) ++ Text.utf8 c.toJson) ∧
    (∀ frame r (s : Wire.Stream) step, Wire.encodePayload (Text.utf8 c.toJson) = .ok frame →
      s.closed = false → s.unread = frame ++ r →
      s.readBlob step = (.ok (Text.utf8 c.toJson),
        { s with unread := r, consumed := s.consumed + (4 + (Text.utf8 c.toJson).length) })) ∧
    InitConfig.ofJson (Text.utf8 c.toJson) = c.validate.map (fun () => c) ∧
    (∀ b, InitConfig.ofJson b = .ok c → InitConfig.ofJson (Text.utf8 c.toJson) = .ok c) ∧
    (∀ r fresh, Cli.initConfigOf r fresh = .ok c ↔
      (r.hostname = none ∨ fresh.has .uts = true) ∧
        c = { args := r.command, env := r.env, hostname := r.hostname } ∧ c.validate = .ok ()) ∧
    (∀ r fresh, Cli.initConfigOf r fresh = .ok c →
      InitConfig.ofJson (Text.utf8 c.toJson) = .ok c) := by
  -- the payload's codec is one whose reader gives back what its writer wrote
  obtain ⟨hframe, hblob, hread, hvalid, hhost⟩ :=
    payload_round_trip_of_codec InitConfig.jsonCodec InitConfig.jsonCodec_read_write c
  exact ⟨hframe, hblob, hread, hvalid, fun r fresh => Cli.initConfigOf_eq_ok r fresh c, hhost⟩

end NamespaceBootstrap
