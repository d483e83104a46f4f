import RecordFormula.Enrichment.Kind
import RecordFormula.Proofs.Json.Documents

/-!
# Keys of requests

The key of a request is the first half of the digest of a text: the name of its kind, a colon and
the compact text of its document. The text tells both, so requests of one key are the same, or their
texts collide in half a digest.

* **Bytes are told by their hexadecimal digits** (`Sha256.hex_inj`).
* **The text of a request tells its kind and its document** (`Enrichment.keyText_eq_iff`).
* `Enrichment.hashed` — the bytes of this text, which the digest is of.
* **Requests have the same bytes exactly if they are the same, and the same key exactly if they are
  the same or collide** (`Enrichment.keys_identify`).
-/

namespace RecordFormula

/-! ### Digests and hexadecimal digits -/

namespace Sha256

/-- A digest has 32 bytes. -/
theorem length_digest (bs : List UInt8) : (digest bs).length = 32 := rfl

/-- Two hexadecimal digits tell their byte. -/
theorem hexByte_inj {b c : UInt8} (h : hexByte b = hexByte c) : b = c := by
  have hdigit : ∀ m < 16, ∀ n < 16,
      ("0123456789abcdef".toList)[m]?.getD '0' = ("0123456789abcdef".toList)[n]?.getD '0' →
        m = n := by decide
  have hb := b.toNat_lt
  have hc := c.toNat_lt
  simp only [hexByte, List.map_cons, List.map_nil, List.cons.injEq, and_true] at h
  have hhigh := hdigit _ (by omega) _ (by omega) h.1
  have hlow := hdigit _ (by omega) _ (by omega) h.2
  exact UInt8.toNat_inj.mp (by omega)

/-- **Bytes are told by their hexadecimal digits.** -/
theorem hex_inj {bs cs : List UInt8} (h : hex bs = hex cs) : bs = cs := by
  have hflat : bs.flatMap hexByte = cs.flatMap hexByte := String.ofList_inj.mp h
  induction bs generalizing cs with
  | nil =>
    cases cs with
    | nil => rfl
    | cons c cs => cases hflat
  | cons b bs ih =>
    cases cs with
    | nil => cases hflat
    | cons c cs =>
      rw [List.flatMap_cons, List.flatMap_cons] at hflat
      obtain ⟨hhead, htail⟩ := List.append_inj hflat rfl
      rw [hexByte_inj hhead, ih (congrArg String.ofList htail) htail]

/-- A byte has two hexadecimal digits. -/
theorem length_hex (bs : List UInt8) : (hex bs).length = 2 * bs.length := by
  rw [hex, String.length_ofList]
  induction bs with
  | nil => rfl
  | cons b bs ih =>
    rw [List.flatMap_cons, List.length_append, ih, List.length_cons]
    simp only [hexByte, List.length_map, List.length_cons, List.length_nil]
    omega

end Sha256

/-! ### Texts of requests -/

namespace Enrichment

open Json (Document Same)

variable {kind kind' : Kind}

/-- The name of a kind tells the kind. -/
theorem Kind.name_inj (h : kind.name = kind'.name) : kind = kind' := by
  have hname : ∀ kind : Kind, Kind.ofName? kind.name = some kind := by
    intro kind
    cases kind <;> decide
  exact Option.some.inj (by rw [← hname kind, h, hname kind'])

/-- There is no colon in the name of a kind. -/
theorem Kind.ne_colon_of_mem_name : ∀ c ∈ kind.name.toList, (c != ':') = true := by
  cases kind <;> simp [Kind.name]

/-- **The text of a request tells its kind and its document.** -/
theorem keyText_eq_iff (d d' : Document) :
    keyText kind d.json = keyText kind' d'.json ↔ kind = kind' ∧ Same d.json d'.json := by
  rw [← Document.compact_eq_iff]
  constructor
  · intro h
    have htext := congrArg String.toList h
    simp only [keyText, String.toList_append, List.append_assoc] at htext
    have hcolon {cs : List Char} : ∀ c, (':' :: cs).head? = some c → (c != ':') = false := by
      rintro c hc
      obtain rfl := Option.some.inj hc
      rfl
    obtain ⟨hname, hbehind⟩ :=
      Json.of_run_append Kind.ne_colon_of_mem_name Kind.ne_colon_of_mem_name hcolon hcolon htext
    exact ⟨Kind.name_inj (String.toList_inj.mp hname),
      String.toList_inj.mp (List.cons.inj hbehind).2⟩
  · rintro ⟨rfl, hcompact⟩
    rw [keyText, keyText, hcompact]

/-- The bytes of a request that its key is the digest of. -/
def hashed (kind : Kind) (input : Json) : List UInt8 := (keyText kind input).toUTF8.data.toList

/-- The bytes of a request tell its text. -/
theorem hashed_eq_iff {i i' : Json} :
    hashed kind i = hashed kind' i' ↔ keyText kind i = keyText kind' i' := by
  rw [hashed, hashed, Array.toList_inj, ← ByteArray.ext_iff]
  exact String.toByteArray_inj

/-- The key of a request tells half the digest of its bytes. -/
theorem key_eq_iff {i i' : Json} :
    key kind i = key kind' i' ↔
      (Sha256.digest (hashed kind i)).take 16 = (Sha256.digest (hashed kind' i')).take 16 :=
  ⟨Sha256.hex_inj, fun h => congrArg Sha256.hex h⟩

/-- A key has 32 hexadecimal digits. -/
theorem length_key (kind : Kind) (input : Json) : (key kind input).length = 32 := by
  rw [key, Sha256.length_hex, List.length_take, Sha256.length_digest]
  rfl

/-- **Keys identify requests.** The bytes of two requests are the same exactly if their kinds are
and their documents are the same. So requests that are the same have one key, and any others have
one only if their bytes collide in the first 128 bits of the digest. It does not matter in which
order the members of a document were put together. -/
theorem keys_identify :
    (∀ (kind kind' : Kind) (d d' : Document),
      hashed kind d.json = hashed kind' d'.json ↔ kind = kind' ∧ Same d.json d'.json) ∧
    (∀ (kind kind' : Kind) (d d' : Document),
      key kind d.json = key kind' d'.json ↔
        (kind = kind' ∧ Same d.json d'.json) ∨
        (hashed kind d.json ≠ hashed kind' d'.json ∧
          (Sha256.digest (hashed kind d.json)).take 16 =
            (Sha256.digest (hashed kind' d'.json)).take 16)) ∧
    (∀ (kind : Kind) (members members' : List (String × Json)),
      members.Perm members' → (members.map (·.1)).Nodup →
        key kind (.object (Members.ofList members)) =
          key kind (.object (Members.ofList members'))) := by
  have hbytes (kind kind' : Kind) (d d' : Document) :
      hashed kind d.json = hashed kind' d'.json ↔ kind = kind' ∧ Same d.json d'.json :=
    hashed_eq_iff.trans (keyText_eq_iff d d')
  refine ⟨hbytes, ?_, ?_⟩
  · intro kind kind' d d'
    rw [key_eq_iff, ← hbytes]
    by_cases hsame : hashed kind d.json = hashed kind' d'.json
    · simp [hsame]
    · simp [hsame]
  · intro kind members members' hperm hkeys
    rw [Members.ofList_perm hperm hkeys]

end Enrichment

end RecordFormula
