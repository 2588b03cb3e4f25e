/-!
# Powers

A power with a natural exponent is the one that core defines, also where other
algebraic structures offer theirs.  Word sizes and ranges are powers of two
throughout the library, and this keeps them one and the same term everywhere.
-/

attribute [instance (2000)] instPowNat

attribute [default_instance (20000)] instPowNat
