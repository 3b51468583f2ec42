import SupplyCatalog.Proofs.FieldRule
import SupplyCatalog.Proofs.PayloadForm
import SupplyCatalog.RemoteImage

/-!
# Images that are fetched

The body of an answer is joined chunk by chunk, and the joining stops as soon as there are more
bytes than allowed. What comes of it depends on the whole body alone: on its length and on the bytes
that it begins with. An address that a company payload accepts is one that can be fetched from.
-/

namespace SupplyCatalog

/-! ## Signatures -/

namespace ImageFormat

inductive Begins : ImageFormat → Bytes → Prop
  | png (rest : Bytes) : Begins png (pngSignature ++ rest)
  | jpeg (rest : Bytes) : Begins jpeg (jpegSignature ++ rest)
  | gif {signature : Bytes} (rest : Bytes) : signature ∈ gifSignatures →
      Begins gif (signature ++ rest)
  | webp {length : Bytes} (rest : Bytes) : length.length = 4 →
      Begins webp (webpSignature.1 ++ (length ++ (webpSignature.2 ++ rest)))
  | bmp (rest : Bytes) : Begins bmp (bmpSignature ++ rest)
  | tiff {signature : Bytes} (rest : Bytes) : signature ∈ tiffSignatures →
      Begins tiff (signature ++ rest)

theorem exists_of_any_prefix {signatures : List Bytes} {bytes : Bytes}
    (any : signatures.any (fun signature => signature.isPrefixOf bytes) = true) :
    ∃ signature ∈ signatures, ∃ rest, bytes = signature ++ rest := by
  obtain ⟨signature, member, begins⟩ := List.any_eq_true.1 any
  obtain ⟨rest, joined⟩ := List.isPrefixOf_iff_prefix.1 begins
  exact ⟨signature, member, rest, joined.symm⟩

theorem begins_webp {bytes : Bytes} (container : webpSignature.1.isPrefixOf bytes = true)
    (name : webpSignature.2.isPrefixOf (bytes.drop 8) = true) : Begins webp bytes := by
  obtain ⟨afterContainer, rfl⟩ := List.isPrefixOf_iff_prefix.1 container
  obtain ⟨rest, joined⟩ := List.isPrefixOf_iff_prefix.1 name
  have dropped : (webpSignature.1 ++ afterContainer).drop 8 = afterContainer.drop 4 := rfl
  rw [dropped] at joined
  have long := congrArg List.length joined
  rw [List.length_append, List.length_drop] at long
  have four : (afterContainer.take 4).length = 4 := by
    have name : webpSignature.2.length = 4 := rfl
    rw [List.length_take]
    omega
  rw [← List.take_append_drop 4 afterContainer, ← joined]
  exact .webp rest four

theorem begins_of_bytes {format : ImageFormat} {bytes : Bytes}
    (found : ofBytes? bytes = some format) : Begins format bytes := by
  unfold ofBytes? at found
  split at found
  · rename_i begins
    obtain ⟨rest, rfl⟩ := List.isPrefixOf_iff_prefix.1 begins
    cases found
    exact .png rest
  split at found
  · rename_i begins
    obtain ⟨rest, rfl⟩ := List.isPrefixOf_iff_prefix.1 begins
    cases found
    exact .jpeg rest
  split at found
  · rename_i any
    obtain ⟨signature, member, rest, rfl⟩ := exists_of_any_prefix any
    cases found
    exact .gif rest member
  split at found
  · rename_i both
    cases found
    rw [Bool.and_eq_true] at both
    exact begins_webp both.1 both.2
  split at found
  · rename_i begins
    obtain ⟨rest, rfl⟩ := List.isPrefixOf_iff_prefix.1 begins
    cases found
    exact .bmp rest
  split at found
  · rename_i any
    obtain ⟨signature, member, rest, rfl⟩ := exists_of_any_prefix any
    cases found
    exact .tiff rest member
  · cases found

/-- No two formats begin alike. -/
theorem of_bytes_of_begins {format : ImageFormat} {bytes : Bytes} (begins : Begins format bytes) :
    ofBytes? bytes = some format := by
  cases begins with
  | png rest => rfl
  | jpeg rest => rfl
  | gif rest member =>
      simp only [gifSignatures, List.mem_cons, List.not_mem_nil, or_false] at member
      rcases member with rfl | rfl <;> rfl
  | @webp length rest four =>
      obtain ⟨a, b, c, d, rfl⟩ := List.length_eq_four.1 four
      rfl
  | bmp rest => rfl
  | tiff rest member =>
      simp only [tiffSignatures, List.mem_cons, List.not_mem_nil, or_false] at member
      rcases member with rfl | rfl <;> rfl

theorem of_bytes_eq_some_iff (format : ImageFormat) (bytes : Bytes) :
    ofBytes? bytes = some format ↔ Begins format bytes :=
  ⟨begins_of_bytes, of_bytes_of_begins⟩

end ImageFormat

/-! ## Bodies in chunks -/

namespace RemoteImage

/-- Chunks are joined to the whole body, unless that is larger than allowed. -/
theorem join_eq (limit : Nat) {body : Bytes} (fits : body.length ≤ limit) (chunks : List Bytes) :
    join limit body chunks =
      if (body ++ chunks.flatten).length ≤ limit then .ok (body ++ chunks.flatten)
      else .error (.tooLarge limit) := by
  induction chunks generalizing body with
  | nil => simp [join, fits]
  | cons chunk rest induction =>
      unfold join
      dsimp only
      split
      · rename_i tooLarge
        have more : ¬(body ++ (chunk :: rest).flatten).length ≤ limit := by
          rw [List.flatten_cons, ← List.append_assoc, List.length_append]
          omega
        rw [if_neg more]
      · rename_i small
        rw [induction (not_lt.1 small), List.flatten_cons, List.append_assoc]

theorem join_nil_eq (limit : Nat) (chunks : List Bytes) :
    join limit [] chunks =
      if chunks.flatten.length ≤ limit then .ok chunks.flatten else .error (.tooLarge limit) := by
  have empty : ([] : Bytes).length ≤ limit := Nat.zero_le limit
  exact join_eq limit empty chunks

/-- What the status and the whole body of an answer come to. -/
def judge (limit status : Nat) (body : Bytes) : Except FetchError CompanyImage :=
  if !Http.isSuccess status then .error (.badStatus status)
  else if body.length ≤ limit then ofBody body
  else .error (.tooLarge limit)

theorem of_reply_eq (limit : Nat) (address : Url) (status : Nat) {declared : Option Nat}
    {chunks : List Bytes} (right : ∀ length ∈ declared, length = chunks.flatten.length) :
    ofReply limit address (.answered status declared chunks) =
      judge limit status chunks.flatten := by
  dsimp only [ofReply, judge]
  rw [join_nil_eq]
  cases Http.isSuccess status with
  | false => rfl
  | true =>
      by_cases fits : chunks.flatten.length ≤ limit
      · have notMore : declared.any (limit < ·) = false := by
          cases declared with
          | none => rfl
          | some length => simpa [right length rfl] using fits
        rw [notMore, if_pos fits, if_pos fits]
        rfl
      · rw [if_neg fits, if_neg fits]
        cases declared.any (limit < ·) <;> rfl

/-! ## What is fetched -/

/-- The request that the text leads to, if it leads to one, can be made and is answered: with a
status, with the length of the body or without it, and with the body in chunks. -/
structure Answers (world : RemoteWorld) (text : String) (status : Nat) (declared : Option Nat)
    (chunks : List Bytes) : Prop where
  requested : ∀ address, address? text = some address →
    address.isRequestable = true ∧ world address = .answered status declared chunks
  declared : ∀ length ∈ declared, length = chunks.flatten.length

/-- All that has to be so for the body of an answer to be taken for an image of the format. -/
structure IsTaken (settings : RemoteImageSettings) (text : String) (status : Nat) (body : Bytes)
    (format : ImageFormat) : Prop where
  enabled : settings.isEnabled = true
  address : ∃ address, Url.parse? (Text.trim text) = some address ∧
    (address.scheme = .http ∨ address.scheme = .https)
  success : 200 ≤ status ∧ status ≤ 299
  fits : body.length ≤ min (settings.maxMegabytes * 2 ^ 20) (2 ^ 64 - 1)
  begins : format.Begins body

theorem address_eq_some_iff (text : String) (address : Url) :
    address? text = some address ↔
      Url.parse? (Text.trim text) = some address ∧
        (address.scheme = .http ∨ address.scheme = .https) := by
  unfold address?
  cases Url.parse? (Text.trim text) with
  | none => simp
  | some parsed =>
      have known : Url.fetchSchemes.contains parsed.scheme = true ↔
          parsed.scheme = .http ∨ parsed.scheme = .https := by
        cases parsed.scheme <;> decide
      simp only [Option.bind_eq_bind, Option.bind_some, known, Option.ite_none_right_eq_some,
        Option.some.injEq]
      constructor
      · rintro ⟨known, rfl⟩
        exact ⟨rfl, known⟩
      · rintro ⟨rfl, known⟩
        exact ⟨known, rfl⟩

theorem fetch_eq {settings : RemoteImageSettings} {world : RemoteWorld} {text : String}
    {status : Nat} {declared : Option Nat} {chunks : List Bytes}
    (answers : Answers world text status declared chunks) :
    fetch settings world text =
      if !settings.isEnabled then .error .notEnabled
      else if (address? text).isNone then .error .badAddress
      else judge settings.maxBytes status chunks.flatten := by
  unfold fetch
  cases found : address? text with
  | none => rfl
  | some address =>
      obtain ⟨requestable, reply⟩ := answers.requested address found
      dsimp only
      rw [requestable, reply, of_reply_eq _ _ _ answers.declared]
      rfl

theorem of_body_eq_ok_iff (body : Bytes) (image : CompanyImage) :
    ofBody body = .ok image ↔ image.bytes = body ∧ ∃ format, ImageFormat.Begins format body := by
  have known : (ImageFormat.ofBytes? body).isSome = true ↔
      ∃ format, ImageFormat.Begins format body := by
    simp only [Option.isSome_iff_exists, ImageFormat.of_bytes_eq_some_iff]
  unfold ofBody
  rw [← known]
  constructor
  · intro taken
    split at taken
    · rename_i known
      obtain rfl : CompanyImage.mk body = image := Except.ok.inj taken
      exact ⟨rfl, known⟩
    · cases taken
  · rintro ⟨rfl, known⟩
    exact if_pos known

theorem judge_eq_ok_iff (limit status : Nat) (body : Bytes) (image : CompanyImage) :
    judge limit status body = .ok image ↔
      (200 ≤ status ∧ status ≤ 299) ∧ body.length ≤ limit ∧ ofBody body = .ok image := by
  have success : Http.isSuccess status = true ↔ 200 ≤ status ∧ status ≤ 299 := by
    simp [Http.isSuccess]
  unfold judge
  rw [← success]
  cases Http.isSuccess status with
  | false => simp
  | true =>
      by_cases fits : body.length ≤ limit
      · simp [fits]
      · simp [fits]

theorem is_taken_iff (settings : RemoteImageSettings) (text : String) (status : Nat) (body : Bytes)
    (format : ImageFormat) :
    IsTaken settings text status body format ↔
      settings.isEnabled = true ∧ (∃ address, address? text = some address) ∧
        (200 ≤ status ∧ status ≤ 299) ∧ body.length ≤ settings.maxBytes ∧ format.Begins body := by
  simp only [address_eq_some_iff]
  constructor
  · rintro ⟨enabled, address, success, fits, begins⟩
    exact ⟨enabled, address, success, fits, begins⟩
  · rintro ⟨enabled, address, success, fits, begins⟩
    exact ⟨enabled, address, success, fits, begins⟩

theorem fetch_eq_ok_iff {settings : RemoteImageSettings} {world : RemoteWorld} {text : String}
    {status : Nat} {declared : Option Nat} {chunks : List Bytes}
    (answers : Answers world text status declared chunks) (image : CompanyImage) :
    fetch settings world text = .ok image ↔
      image.bytes = chunks.flatten ∧
        ∃ format, IsTaken settings text status chunks.flatten format := by
  simp only [is_taken_iff, ← Option.isSome_iff_exists]
  rw [fetch_eq answers]
  cases enabled : settings.isEnabled with
  | false => simp
  | true =>
      cases found : address? text with
      | none => simp
      | some address =>
          simp only [Bool.not_true, Bool.false_eq_true, if_false, Option.isNone_some,
            Option.isSome_some, true_and, judge_eq_ok_iff, of_body_eq_ok_iff]
          constructor
          · rintro ⟨success, fits, same, format, begins⟩
            exact ⟨same, format, success, fits, begins⟩
          · rintro ⟨same, format, success, fits, begins⟩
            exact ⟨success, fits, same, format, begins⟩

end RemoteImage

/-! ## Addresses that payloads give -/

theorem Value.read_of_or_null {α : Type} {read : Json → Checked α} {json : Json} {value : α}
    (given : (orNull read json).toOption = some (some value)) : read json = .ok value := by
  have mapped (result : Checked α) (some : (result.map some).toOption = some (some value)) :
      result = .ok value := by
    cases result with
    | error cause => cases some
    | ok other =>
        obtain rfl : other = value := by simpa [Except.map, Except.toOption] using some
        rfl
  cases json with
  | null => cases given
  | bool _ => exact mapped _ given
  | number _ => exact mapped _ given
  | string _ => exact mapped _ given
  | array _ => exact mapped _ given
  | object _ => exact mapped _ given

theorem CompanyChanges.read_of_remote_image {raw : Option Json} {text : String}
    (kept : some text = remoteImageField.kept raw) :
    text ≠ "" ∧ ∃ json, Value.address Url.fetchSchemes 2000 json = .ok text := by
  unfold FormField.kept Payload.given at kept
  dsimp only [remoteImageField] at kept
  split at kept
  · rename_i address given
    split at kept
    · cases kept
    · rename_i filled
      obtain rfl := Option.some.inj kept
      obtain ⟨json, _, read⟩ := Option.bind_eq_some_iff.1 given
      exact ⟨filled, json, Value.read_of_or_null read⟩
  · cases kept

namespace RemoteImage

theorem head_append {text : String} {c : Char} (first : text.toList.head? = some c)
    (rest : String) : (text ++ rest).toList.head? = some c := by
  rw [String.toList_append, List.head?_append, first, Option.some_or]

/-- No other message begins with the letter that the one about a bad address begins with. -/
theorem eq_bad_address_of_message {failure : FetchError}
    (same : failure.message = "Enter a valid URL.") : failure = .badAddress := by
  have first : failure.message.toList.head? = some 'E' := by
    rw [same]
    decide
  have different {c : Char} (begins : failure.message.toList.head? = some c) (other : c ≠ 'E') :
      failure = .badAddress :=
    absurd (Option.some.inj (begins.symm.trans first)) other
  cases failure with
  | notEnabled => exact different (c := 'D') (by decide) (by decide)
  | badAddress => rfl
  | notRequestable address =>
      exact different (c := 'F') (head_append (head_append (by decide) _) _) (by decide)
  | noConnection address =>
      exact different (c := 'F') (head_append (head_append (by decide) _) _) (by decide)
  | badStatus status => exact different (c := 'F') (head_append (by decide) _) (by decide)
  | tooLarge limit =>
      exact different (c := 'I') (head_append (head_append (by decide) _) _) (by decide)
  | notAnImage => exact different (c := 'S') (by decide) (by decide)

theorem bad_address_of_fetch_given {settings : RemoteImageSettings} {world : RemoteWorld}
    {text : String} (failed : fetchGiven settings world (some text) =
      .error (.ofField "remote_image" "Enter a valid URL.")) :
    fetch settings world text = .error .badAddress := by
  unfold fetchGiven at failed
  dsimp only at failed
  split at failed
  · cases failed
  · rename_i failure fetched
    have same : failure.message = "Enter a valid URL." := by
      simpa [FetchError.toServiceError, ServiceError.ofField, FieldErrors.add, FieldErrors.empty,
        FieldErrors.addEntry] using failed
    rw [fetched, eq_bad_address_of_message same]

theorem of_reply_ne_bad_address (limit : Nat) (address : Url) (reply : RemoteReply) :
    ofReply limit address reply ≠ .error .badAddress := by
  cases reply with
  | unreachable => exact nofun
  | answered status declared chunks =>
      dsimp only [ofReply]
      rw [join_nil_eq]
      split
      · exact nofun
      split
      · exact nofun
      split
      · change ofBody chunks.flatten ≠ _
        unfold ofBody
        split <;> exact nofun
      · exact nofun

theorem fetch_ne_bad_address (settings : RemoteImageSettings) (world : RemoteWorld) {text : String}
    {address : Url} (found : address? text = some address) :
    fetch settings world text ≠ .error .badAddress := by
  unfold fetch
  rw [found]
  split
  · exact nofun
  dsimp only
  split
  · exact of_reply_ne_bad_address _ _ _
  · exact nofun

/-- An address that a payload is accepted for is one that may be fetched from. -/
theorem address_of_accepted {table : CurrencyTable} {isPartial : Bool} {body : Json}
    {changes : CompanyChanges} (accepted : CompanyChanges.parse table isPartial body = .ok changes)
    {text : String} (named : changes.remoteImage = some text) :
    ∃ address, address? text = some address := by
  obtain ⟨fields, rfl, _⟩ := read_of_parsed accepted
  have held := ((CompanyChanges.describes table).governs isPartial).values fields changes accepted
    CompanyChanges.remoteImageField (List.mem_append_right _ List.mem_cons_self)
  change changes.remoteImage =
    CompanyChanges.remoteImageField.kept (Json.lookup fields "remote_image") at held
  obtain ⟨filled, json, read⟩ := CompanyChanges.read_of_remote_image (named.symm.trans held)
  obtain ⟨fits, empty | accepted⟩ := Value.address_of_read read
  · exact absurd empty filled
  · unfold address?
    rw [fits.trimmed.trim_eq]
    unfold Url.isAddress at accepted
    split at accepted
    · rename_i address parsed
      exact ⟨address, by rw [parsed]; exact if_pos accepted⟩
    · cases accepted

/-- What a fetch comes to is decided by the settings, the address, the status and the whole body.
However the body is divided into chunks, the fetch gives the same image or fails in the same way,
and it never finds fault with an address that a payload was accepted for. -/
theorem fetch_is_decided_by_whole_body {settings : RemoteImageSettings} {world : RemoteWorld}
    {text : String} {status : Nat} {declared : Option Nat} {chunks : List Bytes}
    (answers : Answers world text status declared chunks) :
    (∀ image, fetch settings world text = .ok image ↔
      image.bytes = chunks.flatten ∧
        ∃ format, IsTaken settings text status chunks.flatten format) ∧
    (∀ image, fetch settings world text = .ok image →
      ∀ format, image.format? = some format ↔ format.Begins chunks.flatten) ∧
    (∀ failure, fetch settings world text = .error failure →
      fetchGiven settings world (some text) = .error (.ofField "remote_image" failure.message)) ∧
    (∀ otherWorld otherDeclared otherChunks,
      Answers otherWorld text status otherDeclared otherChunks →
      otherChunks.flatten = chunks.flatten →
        fetch settings otherWorld text = fetch settings world text) ∧
    ∀ table isPartial body changes, CompanyChanges.parse table isPartial body = .ok changes →
      ∀ address ∈ changes.remoteImage, ∀ anySettings anyWorld,
        fetchGiven anySettings anyWorld (some address) ≠
          .error (.ofField "remote_image" "Enter a valid URL.") := by
  refine ⟨fetch_eq_ok_iff answers, ?_, ?_, ?_, ?_⟩
  · intro image fetched format
    obtain ⟨same, _⟩ := (fetch_eq_ok_iff answers image).1 fetched
    rw [← same]
    exact ImageFormat.of_bytes_eq_some_iff format image.bytes
  · intro failure failed
    unfold fetchGiven
    dsimp only
    rw [failed]
    rfl
  · intro otherWorld otherDeclared otherChunks others same
    rw [fetch_eq answers, fetch_eq others, same]
  · intro table isPartial body changes accepted address named anySettings anyWorld failed
    obtain ⟨url, found⟩ := address_of_accepted accepted named
    exact fetch_ne_bad_address anySettings anyWorld found (bad_address_of_fetch_given failed)

/-- The signature of an image in two pieces with an empty one between, and a byte more. -/
def pngPieces : List Bytes := [[0x89, 0x50], [], [0x4E, 0x47, 0x0D, 0x0A, 0x1A, 0x0A, 0x00]]

def pngWorld : RemoteWorld := fun _ => .answered 200 (some 9) pngPieces

theorem image_in_pieces_is_fetched :
    Answers pngWorld " http://a.b/x.png " 200 (some 9) pngPieces ∧
      fetch ⟨true, 1, 10⟩ pngWorld " http://a.b/x.png " = .ok ⟨pngPieces.flatten⟩ := by
  have found : ∃ address, address? " http://a.b/x.png " = some address ∧
      address.isRequestable = true := by
    have any : (address? " http://a.b/x.png ").any (·.isRequestable) = true := by decide +kernel
    simpa [Option.any_eq_true] using any
  obtain ⟨address, named, requestable⟩ := found
  have answers : Answers pngWorld " http://a.b/x.png " 200 (some 9) pngPieces := by
    constructor
    · intro other same
      obtain rfl := Option.some.inj (named.symm.trans same)
      exact ⟨requestable, rfl⟩
    · rintro length ⟨⟩
      rfl
  have taken : IsTaken ⟨true, 1, 10⟩ " http://a.b/x.png " 200 pngPieces.flatten .png :=
    ⟨rfl, ⟨address, (address_eq_some_iff _ _).1 named⟩, by decide, by decide, .png [0x00]⟩
  exact ⟨answers, ((fetch_is_decided_by_whole_body answers).1 _).2 ⟨rfl, .png, taken⟩⟩

end RemoteImage

end SupplyCatalog
