import ServiceClient.Proofs.Text.Split
import ServiceClient.Proofs.Text.Utf8
import ServiceClient.Proofs.Uri.Percent

/-!
# Reading encoded values back

Decoding is the inverse of encoding in both modes: whatever the value, its bytes come out of the
triples and the characters that stayed, and its characters out of the bytes. Encoding goes character
by character, so it takes texts that are put together to encoded texts that are put together. The
two modes differ in the slash alone: a value that keeps its slashes is encoded as its pieces between
them are, each without: `encode_is_decodable`.
-/

namespace ServiceClient.Uri.Percent

/-- The bytes of an encoded value are the UTF-8 form of the value. -/
theorem bytes_encodeChars (multiSegment : Bool) (cs : List Char) :
    bytes (encodeChars multiSegment cs) = Text.Utf8.encode cs := by
  have h := bytes_encodeChars_append multiSegment cs []
  rwa [List.append_nil, bytes, List.append_nil] at h

/-- What an encoded value stands for is the value. -/
theorem decode_encode (multiSegment : Bool) (text : String) :
    decode (encode multiSegment text) = .ok text := by
  rw [decode, encode, String.toList_ofList, bytes_encodeChars, Text.Utf8.decode_encode, Except.map,
    String.ofList_toList]

theorem encode_append (multiSegment : Bool) (u v : String) :
    encode multiSegment (u ++ v) = encode multiSegment u ++ encode multiSegment v := by
  rw [encode, String.toList_append, encodeChars_append, String.ofList_append]
  rfl

/-- Without slashes the modes do not differ. -/
theorem encodeChars_of_slash_notMem {cs : List Char} (h : '/' ∉ cs) (multiSegment : Bool) :
    encodeChars multiSegment cs = encodeChars false cs := by
  refine List.flatMap_congr fun c hc ↦ ?_
  have hslash : c ≠ '/' := fun heq ↦ h (heq ▸ hc)
  simp only [encodeChar, isSafe, hslash, decide_false, Bool.and_false]

/-- A value that keeps its slashes is encoded piece by piece. -/
theorem encodeChars_true (cs : List Char) :
    encodeChars true cs = ['/'].intercalate ((cs.splitOn '/').map (encodeChars false)) := by
  calc
    encodeChars true cs = encodeChars true (['/'].intercalate (cs.splitOn '/')) := by
      rw [List.intercalate_splitOn]
    _ = ['/'].intercalate ((cs.splitOn '/').map (encodeChars true)) :=
      Text.apply_intercalate (encodeChars_append true) (by decide) _
    _ = ['/'].intercalate ((cs.splitOn '/').map (encodeChars false)) :=
      congrArg _ (List.map_congr_left fun piece hpiece ↦
        encodeChars_of_slash_notMem (Text.notMem_of_mem_splitOn hpiece) true)

/-- In both modes, encoded values are decoded to what they were, texts are encoded part by part, and
what comes out are unreserved characters and triples, besides slashes that are kept. A value that
keeps its slashes is encoded as the pieces between them, with the slashes put back. -/
theorem encode_is_decodable (multiSegment : Bool) (u v : String) :
    decode (encode multiSegment v) = .ok v ∧
    encode multiSegment (u ++ v) = encode multiSegment u ++ encode multiSegment v ∧
    Encoded multiSegment (encode multiSegment v).toList ∧
    encode true v = String.intercalate "/"
      ((v.toList.splitOn '/').map fun piece ↦ encode false (String.ofList piece)) := by
  refine ⟨decode_encode multiSegment v, encode_append multiSegment u v, ?_, ?_⟩
  · rw [encode, String.toList_ofList]
    exact encoded_encodeChars multiSegment v.toList
  · rw [← String.toList_inj, String.toList_intercalate, encode, String.toList_ofList,
      encodeChars_true, List.map_map]
    refine congrArg _ (List.map_congr_left fun piece _ ↦ ?_)
    rw [Function.comp_apply, encode, String.toList_ofList, String.toList_ofList]

example : encode true "a%2F/é//" = "a%252F/%C3%A9//" := by decide +kernel

end ServiceClient.Uri.Percent
