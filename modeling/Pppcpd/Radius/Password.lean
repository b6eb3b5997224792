import Pppcpd.Radius.Messages

namespace Pppcpd

open Foundation

/-!
# Hidden passwords

A password is sent in blocks of sixteen bytes.  The first is hidden with the digest
of the secret and the authenticator, each other one with the digest of the secret and
the hidden block before it.  Whoever has the secret reads the hidden blocks from the
front and knows every digest in time, so the padded password comes back for any
digest function.
-/

/-- The decoding of a number of blocks, the first of which has the given digest. -/
def revealBlocks (md5 : Bytes -> Bytes) (secret : Bytes) : Nat -> Bytes -> Bytes -> Bytes
  | 0, _, _ => []
  | blocks + 1, digest, hidden =>
      let block := hidden.take 16
      List.zipWith (· ^^^ ·) block digest ++
        revealBlocks md5 secret blocks (md5 (secret ++ block)) (hidden.drop 16)

/-- The decoding of a hidden password. -/
def revealPassword (md5 : Bytes -> Bytes) (auth secret hidden : Bytes) : Bytes :=
  revealBlocks md5 secret (hidden.length / 16) (md5 (secret ++ auth)) hidden

/-- The same key hides and reveals. -/
theorem zipWith_xor_cancel {key plain : Bytes} (same : key.length = plain.length) :
    List.zipWith (· ^^^ ·) (List.zipWith (· ^^^ ·) key plain) key = plain := by
  induction key generalizing plain with
  | nil => exact (List.eq_nil_of_length_eq_zero same.symm).symm
  | cons first key inductionHypothesis =>
      cases plain with
      | nil => cases same
      | cons byte plain =>
          have rest := inductionHypothesis (Nat.succ.inj same)
          simp only [List.zipWith_cons_cons, rest]
          rw [UInt8.xor_comm first byte, UInt8.xor_assoc, UInt8.xor_self, UInt8.xor_zero]

section

variable {md5 : Bytes -> Bytes} (secret : Bytes)

/-- Whole blocks keep their length, and are revealed as they were. -/
theorem revealBlocks_hideBlocks (sixteen : forall text, (md5 text).length = 16) {blocks : Nat}
    {digest pass : Bytes} (isDigest : digest.length = 16) (whole : pass.length = 16 * blocks) :
    (hideBlocks md5 secret blocks digest pass).length = 16 * blocks ∧
      revealBlocks md5 secret blocks digest (hideBlocks md5 secret blocks digest pass) = pass := by
  induction blocks generalizing digest pass with
  | zero =>
      have empty : pass = [] := List.eq_nil_of_length_eq_zero whole
      rw [empty]
      exact ⟨rfl, rfl⟩
  | succ blocks inductionHypothesis =>
      have isKey : digest.take 16 = digest := List.take_of_length_le (Nat.le_of_eq isDigest)
      have block : (pass.take 16).length = 16 := by
        rw [List.length_take]
        omega
      have hidden : (List.zipWith (· ^^^ ·) digest (pass.take 16)).length = 16 := by
        rw [List.length_zipWith, isDigest, block]
        rfl
      have left : (pass.drop 16).length = 16 * blocks := by
        rw [List.length_drop]
        omega
      rcases @inductionHypothesis
        (md5 (secret ++ List.zipWith (· ^^^ ·) digest (pass.take 16))) (pass.drop 16) (sixteen _) left
        with ⟨length, revealed⟩
      rw [hideBlocks, isKey]
      constructor
      · rw [List.length_append, length, hidden]
        omega
      · -- The first sixteen bytes are the block that was hidden with this digest.
        rw [revealBlocks, List.take_left' hidden, List.drop_left' hidden, revealed,
          zipWith_xor_cancel (isDigest.trans block.symm), List.take_append_drop]

/-- A hidden password is decoded to the password with zeros up to the next multiple
of sixteen, and is as long. -/
theorem revealPassword_passwordPapProcess (sixteen : forall text, (md5 text).length = 16)
    (auth pass : Bytes) :
    ∃ zeros, zeros < 16 ∧ (pass.length + zeros) % 16 = 0 ∧
      (passwordPapProcess md5 auth secret pass).length = pass.length + zeros ∧
      revealPassword md5 auth secret (passwordPapProcess md5 auth secret pass) =
        pass ++ List.replicate zeros 0 := by
  let blocks := (pass.length + 15) / 16
  have padded : (pass ++ List.replicate (16 * blocks - pass.length) 0).length = 16 * blocks := by
    rw [List.length_append, List.length_replicate]
    omega
  rcases revealBlocks_hideBlocks secret sixteen (sixteen (secret ++ auth)) padded with
    ⟨length, revealed⟩
  refine ⟨16 * blocks - pass.length, by omega, by omega, ?_, ?_⟩
  · rw [passwordPapProcess, length]
    omega
  · rw [revealPassword, passwordPapProcess, length, Nat.mul_div_cancel_left blocks (by decide)]
    exact revealed

end

/-- Twenty letters take two blocks. -/
theorem revealPassword_of_twoBlocks :
    ∃ zeros, zeros < 16 ∧ ((List.replicate 20 (97 : UInt8)).length + zeros) % 16 = 0 ∧
      (passwordPapProcess (fun text => text.take 16 ++ List.replicate (16 - text.length) 7)
        (List.replicate 16 1) (ascii "secret") (List.replicate 20 97)).length =
          (List.replicate 20 (97 : UInt8)).length + zeros ∧
      revealPassword (fun text => text.take 16 ++ List.replicate (16 - text.length) 7)
        (List.replicate 16 1) (ascii "secret")
        (passwordPapProcess (fun text => text.take 16 ++ List.replicate (16 - text.length) 7)
          (List.replicate 16 1) (ascii "secret") (List.replicate 20 97)) =
          List.replicate 20 97 ++ List.replicate zeros 0 :=
  revealPassword_passwordPapProcess (ascii "secret")
    (fun text => by
      rw [List.length_append, List.length_take, List.length_replicate]
      omega)
    (List.replicate 16 1) (List.replicate 20 97)

end Pppcpd
