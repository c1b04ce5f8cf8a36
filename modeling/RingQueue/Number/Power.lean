/-! Powers with natural exponents. They are those of the core library, and stay so where a library
of algebra is imported that has its own. -/

attribute [instance (high), default_instance (high + 1)] instPowNat
