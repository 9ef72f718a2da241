/-!
# Powers of whole numbers

A power is read in the same way everywhere, as the operation of the core library, whatever
other powers a module knows of.
-/

attribute [default_instance 20000, instance (20000)] instPowNat
