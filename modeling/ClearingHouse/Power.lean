/-!
# Powers

A power of a number is the one of the core library, also in a module that sees
further ones.
-/

attribute [instance (2000), default_instance 20000] instPowNat
